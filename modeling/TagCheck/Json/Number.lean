/-
# Numbers in JSON

A number that is written as an integer and fits into 64 bits is one.  Every other
number is a double, of which only the text is needed here, because no shape asks
for a fraction: the digits up to the 64-bit limit are taken as an integer and then
scaled by a power of ten.
-/

import TagCheck.Decimal.Shortest
import TagCheck.Json.Reader

namespace TagCheck.Json

/-- A number as it was understood. -/
inductive Number where
  | natural (value : Nat)
  /-- The integer `-value`. -/
  | negative (value : Nat)
  /-- Any other number, by its shortest text. -/
  | fraction (text : String)
  deriving DecidableEq, Repr

namespace Number

/-- The largest integer. -/
def maxNatural : Nat := 0xFFFFFFFFFFFFFFFF

/-- The largest integer with a minus sign in front. -/
def maxNegative : Nat := 0x8000000000000000

/-- How a number is named where another value is wanted. -/
def describe : Number → String
  | natural value => "integer `" ++ toString value ++ "`"
  | negative value => "integer `-" ++ toString value ++ "`"
  | fraction text => "floating point `" ++ text ++ "`"

/-- The value of a decimal digit. -/
def digit? (c : Char) : Option Nat :=
  if '0' ≤ c && c ≤ '9' then some (c.toNat - '0'.toNat) else none

def isDigit (c : Char) : Bool := (digit? c).isSome

/-- The largest exponent that is read as such. -/
def maxExponent : Nat := 0x7FFFFFFF

/-- Take digits into a number as long as it stays within a limit.  Handed back are
the number, how many digits were taken, and what is left, which may go on with
digits. -/
def digitsWithin (limit : Nat) (value count : Nat) : List Char → Nat × Nat × List Char
  | [] => (value, count, [])
  | c :: rest =>
      match digit? c with
      | none => (value, count, c :: rest)
      | some digit =>
          let longer := value * 10 + digit
          if longer > limit then (value, count, c :: rest)
          else digitsWithin limit longer (count + 1) rest

/-- The double that is nearest to a power of ten. -/
def powerOfTen (exponent : Nat) : Float := Float.ofScientific 1 false exponent

/-- The largest power of ten that is a double. -/
def maxPower : Nat := 308

/-- Divide by a power of ten that may be too large for a double. -/
def scaleDown (value : Float) (exponent : Nat) : Float :=
  if exponent ≤ maxPower then value / powerOfTen exponent
  else if value == 0 then value
  else scaleDown (value / powerOfTen maxPower) (exponent - maxPower)
termination_by exponent
decreasing_by simp [maxPower] at *; omega

/-- A significand scaled by a power of ten, if the result is finite. -/
def scaled? (significand : Nat) (exponent : Int) : Option Float :=
  let value := significand.toUInt64.toFloat
  match exponent with
  | .ofNat up =>
      if up ≤ maxPower then
        let result := value * powerOfTen up
        if result.isInf then none else some result
      else if significand = 0 then some value
      else none
  | .negSucc down => some (scaleDown value (down + 1))

/-- The number with this sign, significand and exponent. -/
def finish (isNegative : Bool) (significand : Nat) (exponent : Int) : Reader Number := fun rest =>
  match scaled? significand exponent with
  | none => failHere .numberTooLarge rest
  | some value =>
      .ok (.fraction (Decimal.ofFloat (if isNegative then -value else value)), rest)

/-- Read an exponent from behind its letter and finish the number. -/
def exponentPart (isNegative : Bool) (significand : Nat) (exponent : Int) : Reader Number :=
  fun text =>
    let (isDown, text) := match text with
      | '+' :: rest => (false, rest)
      | '-' :: rest => (true, rest)
      | _ => (false, text)
    match text with
    | [] => failHere .endInValue []
    | c :: _ =>
        if !isDigit c then failAtNext .badNumber text
        else
          let (size, _, beyond) := digitsWithin maxExponent 0 0 text
          let shift : Int := if isDown then -size else size
          match beyond with
          | next :: further =>
              if !isDigit next then finish isNegative significand (exponent + shift) beyond
              else if significand ≠ 0 && !isDown then failHere .numberTooLarge further
              else
                .ok (.fraction (if isNegative then "-0.0" else "0.0"), further.dropWhile isDigit)
          | [] => finish isNegative significand (exponent + shift) beyond

/-- Read an exponent if there is one, and finish the number. -/
def exponentNext (isNegative : Bool) (significand : Nat) (exponent : Int) : Reader Number
  | 'e' :: rest => exponentPart isNegative significand exponent rest
  | 'E' :: rest => exponentPart isNegative significand exponent rest
  | rest => finish isNegative significand exponent rest

/-- Read the digits behind a decimal point and finish the number. -/
def fractionPart (isNegative : Bool) (significand : Nat) (exponent : Int) : Reader Number :=
  fun text =>
    let (longer, count, rest) := digitsWithin maxNatural significand 0 text
    match rest with
    | next :: _ =>
        if isDigit next then
          exponentNext isNegative longer (exponent - count) (rest.dropWhile isDigit)
        else if count = 0 then failAtNext .badNumber rest
        else exponentNext isNegative longer (exponent - count) rest
    | [] =>
        if count = 0 then failAtNext .endInValue []
        else exponentNext isNegative longer (exponent - count) rest

/-- The integer with this sign, or the double where there is none. -/
def integer (isNegative : Bool) (significand : Nat) : Number :=
  if !isNegative then .natural significand
  else if significand = 0 || significand > maxNegative then
    .fraction (Decimal.ofFloat (-significand.toUInt64.toFloat))
  else .negative significand

/-- Read on from behind the integer digits. -/
def afterInteger (isNegative : Bool) (significand : Nat) : Reader Number
  | '.' :: rest => fractionPart isNegative significand 0 rest
  | 'e' :: rest => exponentPart isNegative significand 0 rest
  | 'E' :: rest => exponentPart isNegative significand 0 rest
  | rest => .ok (integer isNegative significand, rest)

/-- Read on from where the integer digits went beyond the limit: the digits to come
only count. -/
def afterLongInteger (isNegative : Bool) (significand : Nat) (text : List Char) :
    Except Failure (Number × List Char) :=
  let exponent : Int := (text.takeWhile isDigit).length
  match text.dropWhile isDigit with
  | '.' :: rest => fractionPart isNegative significand exponent rest
  | rest => exponentNext isNegative significand exponent rest

/-- Read a number from behind its sign. -/
def read (isNegative : Bool) : Reader Number := fun text =>
  match text with
  | [] => failHere .endInValue []
  | '0' :: rest =>
      match rest with
      | next :: _ =>
          if isDigit next then failAtNext .badNumber rest else afterInteger isNegative 0 rest
      | [] => afterInteger isNegative 0 rest
  | c :: _ =>
      if !isDigit c then failAtNext .badNumber text
      else
        let (significand, _, rest) := digitsWithin maxNatural 0 0 text
        match rest with
        | next :: _ =>
            if isDigit next then afterLongInteger isNegative significand rest
            else afterInteger isNegative significand rest
        | [] => afterInteger isNegative significand rest

end Number

/-- Pass over an exponent from behind its letter. -/
def skipExponent (text : List Char) : Except Failure (List Char) :=
  let text := match text with
    | '+' :: rest => rest
    | '-' :: rest => rest
    | _ => text
  match text with
  | [] => failHere .badNumber []
  | c :: rest =>
      if Number.isDigit c then .ok (rest.dropWhile Number.isDigit)
      else failAtNext .badNumber text

/-- Pass over an exponent if there is one. -/
def skipExponentNext : List Char → Except Failure (List Char)
  | 'e' :: rest => skipExponent rest
  | 'E' :: rest => skipExponent rest
  | rest => .ok rest

/-- Pass over what follows the integer digits of a number. -/
def skipAfterInteger : List Char → Except Failure (List Char)
  | '.' :: rest =>
      match rest with
      | [] => failAtNext .badNumber []
      | c :: _ =>
          if Number.isDigit c then skipExponentNext (rest.dropWhile Number.isDigit)
          else failAtNext .badNumber rest
  | rest => skipExponentNext rest

/-- Pass over a number from behind its sign. -/
def skipNumber (text : List Char) : Except Failure (List Char) :=
  match text with
  | [] => failHere .badNumber []
  | '0' :: rest =>
      match rest with
      | next :: _ =>
          if Number.isDigit next then failAtNext .badNumber rest else skipAfterInteger rest
      | [] => skipAfterInteger rest
  | c :: rest =>
      if Number.isDigit c then skipAfterInteger (rest.dropWhile Number.isDigit)
      else failAtNext .badNumber text

end TagCheck.Json
