/-
# Sets of characters

A property of characters is given by ranges of code points, with both ends included
and in increasing order.
-/

namespace TagCheck

/-- A set of characters. -/
structure CharRanges where
  ranges : List (Nat × Nat)
  deriving DecidableEq, Repr

namespace CharRanges

/-- Whether a code point is in one of the ranges.  Those behind the first one that
begins later are not looked at. -/
def covers (code : Nat) : List (Nat × Nat) → Bool
  | [] => false
  | (first, last) :: rest => first ≤ code && (code ≤ last || covers code rest)

/-- Whether a character is in the set. -/
def has (set : CharRanges) (c : Char) : Bool := covers c.toNat set.ranges

end CharRanges

end TagCheck
