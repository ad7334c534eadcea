/-
# The shortest decimal of a binary fraction

A double stands for every real that rounds to it, and of the decimals among those
the one with the fewest digits is how it is written; of several that short, the
nearest.  A double is given by what its bits say: a significand `m` and a power of
two.  All arithmetic is on natural numbers, so nothing is rounded on the way.
-/

namespace TagCheck.Decimal

/-- A finite positive double: `significand * 2 ^ (exponent - 1075)`. -/
structure Binary where
  significand : Nat
  /-- The power of two, raised so that it is never negative. -/
  exponent : Nat
  /-- Whether the next double below is only half as far away as the one above. -/
  narrowBelow : Bool
  deriving DecidableEq, Repr

/-- The leading bit of most significands, which is not stored: the 53rd. -/
def hiddenBit : Nat := 0x10000000000000

/-- The bit that holds the sign of a double: the 64th. -/
def signBit : Nat := 0x8000000000000000

/-- The double that 63 bits without the sign encode. -/
def Binary.ofBits (bits : Nat) : Binary :=
  let fraction := bits % hiddenBit
  let biased := bits / hiddenBit
  if biased = 0 then ⟨fraction, 1, false⟩
  else ⟨fraction + hiddenBit, biased, fraction = 0 && biased > 1⟩

/-- The digits of a decimal and its scale: `digits * 10 ^ scale`. -/
structure Digits where
  digits : Nat
  scale : Int
  deriving DecidableEq, Repr

/-- A quotient of natural numbers, as numerator and denominator. -/
structure Quotient where
  numerator : Nat
  denominator : Nat
  deriving DecidableEq, Repr

/-- `n * 2 ^ (exponent - 1077)`, for four times a significand. -/
def quarters (n exponent : Nat) : Quotient :=
  if exponent ≥ 1077 then ⟨n * Nat.pow 2 (exponent - 1077), 1⟩
  else ⟨n, Nat.pow 2 (1077 - exponent)⟩

/-- `q / 10 ^ scale`. -/
def Quotient.onGrid (q : Quotient) (scale : Int) : Quotient :=
  match scale with
  | .ofNat up => ⟨q.numerator, q.denominator * Nat.pow 10 up⟩
  | .negSucc down => ⟨q.numerator * Nat.pow 10 (down + 1), q.denominator⟩

/-- The decimal on the grid of this scale that reads back as the double, the
nearer one if both neighbours do and the even one of two as near. -/
def onGrid? (b : Binary) (scale : Int) : Option Digits :=
  let value := (quarters (4 * b.significand) b.exponent).onGrid scale
  let low := (quarters (4 * b.significand - if b.narrowBelow then 1 else 2) b.exponent).onGrid scale
  let high := (quarters (4 * b.significand + 2) b.exponent).onGrid scale
  let closed := b.significand % 2 = 0
  let inside (n : Nat) : Bool :=
    let below := n * low.denominator
    let above := n * high.denominator
    if closed then low.numerator ≤ below && above ≤ high.numerator
    else low.numerator < below && above < high.numerator
  let floor := value.numerator / value.denominator
  let remainder := value.numerator % value.denominator
  let nearerFirst :=
    if 2 * remainder < value.denominator || 2 * remainder = value.denominator && floor % 2 = 0
    then [floor, floor + 1] else [floor + 1, floor]
  (nearerFirst.find? fun n => n > 0 && inside n).map fun n => ⟨n, scale⟩

/-- The place of the leading digit, counted from the units. -/
def leadingPlace (b : Binary) : Int :=
  let q := quarters (4 * b.significand) b.exponent
  if q.numerator ≥ q.denominator then (Nat.toDigits 10 (q.numerator / q.denominator)).length - 1
  else -(Nat.toDigits 10 (q.denominator / q.numerator)).length

/-- The shortest decimal that reads back as the double. -/
def shortest (b : Binary) : Digits :=
  let top := leadingPlace b + 1
  let onGridOf (places : Nat) : Option Digits := onGrid? b (top - places)
  ((List.range 19).findSome? onGridOf).getD ⟨0, 0⟩

/-- Digits without the zeros at the end. -/
def trimZeros (digits : List Char) : List Char :=
  (digits.reverse.dropWhile (· = '0')).reverse

/-- How a decimal is written: with a decimal point and at least one digit on both
sides of it if the leading digit is in the hundred-thousandths or further left but not
beyond the sixteenth place, else with one digit before the point, if more follow, and
an exponent with its sign. -/
def render (d : Digits) : String :=
  let digits := trimZeros (Nat.toDigits 10 d.digits)
  let place : Int := d.scale + (Nat.toDigits 10 d.digits).length - 1
  let text : List Char :=
    if -5 ≤ place && place < 0 then
      ['0', '.'] ++ List.replicate (-place - 1).toNat '0' ++ digits
    else if 0 ≤ place && place ≤ 15 then
      let whole := place.toNat + 1
      let fraction := digits.drop whole
      digits.take whole ++ List.replicate (whole - digits.length) '0' ++ ['.'] ++
        if fraction.isEmpty then ['0'] else fraction
    else
      let exponent := Nat.toDigits 10 place.natAbs
      let tail := digits.drop 1
      digits.take 1 ++ (if tail.isEmpty then [] else '.' :: tail) ++
        ['e', if place < 0 then '-' else '+'] ++ exponent
  String.ofList text

/-- A finite double as text. -/
def ofFloat (value : Float) : String :=
  let bits := value.toBits.toNat
  let sign := if bits ≥ signBit then "-" else ""
  let magnitude := bits % signBit
  sign ++ if magnitude = 0 then "0.0" else render (shortest (Binary.ofBits magnitude))

end TagCheck.Decimal
