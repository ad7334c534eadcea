/-
# Matching globs

A token is matched against all stretches of a text at once.  The places of the text
reached so far are marks, one for each place between bytes and one at either end;
a token moves the marks from where its stretches may begin to where they may end.
A glob matches if the marks, which start with the first place alone, reach the last.

The work is the product of the lengths of glob and text, whatever the stars.
-/

import TagCheck.Glob.Pattern

namespace TagCheck

/-- Which places of a text are reached, from the first to the last; one more than
the text has bytes. -/
abbrev Marks := List Bool

namespace Marks

/-- The first place alone. -/
def start (text : Text) : Marks := true :: text.map fun _ => false

/-- From each marked place over one byte that passes a test. -/
def across (test : UInt8 → Bool) (text : Text) (marks : Marks) : Marks :=
  false :: List.zipWith (fun b mark => mark && test b) text marks

/-- From each marked place to itself and all places after it, given whether a place
before the first is marked. -/
def spreadFrom (marked : Bool) : Marks → Marks
  | [] => []
  | mark :: rest => (marked || mark) :: spreadFrom (marked || mark) rest

/-- From each marked place to itself and all places after it. -/
def spread (marks : Marks) : Marks := spreadFrom false marks

/-- What is marked in either. -/
def either (marks others : Marks) : Marks := List.zipWith (· || ·) marks others

/-- Nothing marked. -/
def none (text : Text) : Marks := false :: text.map fun _ => false

/-- Whether the last place is marked. -/
def reachesEnd (marks : Marks) : Bool := marks.getLast? == some true

/-- From each marked place over these bytes. -/
def acrossAll (bytes : List UInt8) (text : Text) (marks : Marks) : Marks :=
  bytes.foldl (fun marks byte => across (· == byte) text marks) marks

def acrossSlash (text : Text) (marks : Marks) : Marks := across (· == Byte.slash) text marks

end Marks

/-- The bytes that write a character. -/
def charBytes (c : Char) : List UInt8 := (String.singleton c).toUTF8.toList

namespace GlobToken

/-- Whether a byte is in a range of characters.  A character beyond ASCII stands
for each of the bytes that write it, and in a range only the two bytes around the
dash are its ends. -/
def inRange (b : UInt8) (range : Char × Char) : Bool :=
  let (first, last) := range
  if first = last then (charBytes first).contains b
  else
    match (charBytes first).reverse, charBytes last with
    | low :: before, high :: after =>
        (low ≤ b && b ≤ high) || before.contains b || after.contains b
    | _, _ => false

mutual

/-- Whether a token stands for nothing at all, not even the empty text: a group
without a branch that counts. -/
def isVoid : GlobToken → Bool
  | alternatives branches => allVoid branches
  | _ => false

/-- Whether all tokens of a branch stand for nothing, so that it does not count. -/
def isVoidBranch : List GlobToken → Bool
  | [] => true
  | token :: rest => isVoid token && isVoidBranch rest

/-- Whether no branch counts. -/
def allVoid : List (List GlobToken) → Bool
  | [] => true
  | branch :: rest => isVoidBranch branch && allVoid rest

end

mutual

/-- From each marked place over a stretch that a token matches. -/
def pass (text : Text) (marks : Marks) : GlobToken → Marks
  | literal c => marks.acrossAll (charBytes c) text
  | anyByte => marks.across (fun _ => true) text
  | anyBytes => marks.spread
  | leadingFolders => marks.either (marks.spread.acrossSlash text)
  | innerFolders =>
      (marks.acrossSlash text).either ((marks.acrossSlash text).spread.acrossSlash text)
  | trailingFolders => (marks.acrossSlash text).spread
  | charClass negated ranges =>
      marks.across (fun b => ranges.any (inRange b) != negated) text
  | alternatives branches =>
      if allVoid branches then marks else passAny text marks branches

/-- From each marked place over a stretch that tokens match one after the other. -/
def passAll (text : Text) (marks : Marks) : List GlobToken → Marks
  | [] => marks
  | token :: rest => passAll text (pass text marks token) rest

/-- From each marked place over a stretch that a branch matches. -/
def passAny (text : Text) (marks : Marks) : List (List GlobToken) → Marks
  | [] => Marks.none text
  | branch :: rest =>
      if isVoidBranch branch then passAny text marks rest
      else (passAll text marks branch).either (passAny text marks rest)

end

end GlobToken

/-- Whether a glob matches a text.  Two stars alone match everything. -/
def Glob.isMatch (glob : Glob) (text : Text) : Bool :=
  match glob.tokens with
  | [.leadingFolders] => true
  | tokens => (GlobToken.passAll text (Marks.start text) tokens).reachesEnd

/-- Whether a glob matches a string, by the bytes that write it. -/
def Glob.matchesString (glob : Glob) (text : String) : Bool := glob.isMatch text.toUTF8.toList

end TagCheck
