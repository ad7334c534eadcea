/-
# Strings in JSON

A string is read from behind its opening quote to behind its closing one.  A string
that is of no interest is passed over with fewer questions asked: its escapes must
have the right form, but a surrogate needs no partner.
-/

import TagCheck.Json.Reader

namespace TagCheck.Json

/-- The value of a hexadecimal digit. -/
def hexValue? (c : Char) : Option Nat :=
  if '0' ≤ c && c ≤ '9' then some (c.toNat - '0'.toNat)
  else if 'a' ≤ c && c ≤ 'f' then some (c.toNat - 'a'.toNat + 10)
  else if 'A' ≤ c && c ≤ 'F' then some (c.toNat - 'A'.toNat + 10)
  else none

/-- The number that four hexadecimal digits at the front of a text stand for. -/
def fourDigits? : List Char → Option Nat
  | a :: b :: c :: d :: _ =>
      match hexValue? a, hexValue? b, hexValue? c, hexValue? d with
      | some a, some b, some c, some d => some (((a * 16 + b) * 16 + c) * 16 + d)
      | _, _, _, _ => none
  | _ => none

/-- Why a text does not start with four digits. -/
def noFourDigits {α : Type} (text : List Char) : Except Failure α :=
  if byteLength text < 4 then failHere .endInString [] else .error ⟨.badEscape, text, 4⟩

/-- The first of the code units that come in pairs. -/
def isHighSurrogate (unit : Nat) : Bool := 0xD800 ≤ unit && unit ≤ 0xDBFF

/-- The second of the code units that come in pairs. -/
def isLowSurrogate (unit : Nat) : Bool := 0xDC00 ≤ unit && unit ≤ 0xDFFF

/-- The character that a pair of surrogates stands for. -/
def ofSurrogates (high low : Nat) : Char :=
  Char.ofNat ((high - 0xD800) * 0x400 + (low - 0xDC00) + 0x10000)

/-- The character that a letter after a backslash stands for. -/
def shortEscape? : Char → Option Char
  | '"' => some '"'
  | '\\' => some '\\'
  | '/' => some '/'
  | 'b' => some '\x08'
  | 'f' => some '\x0c'
  | 'n' => some '\n'
  | 'r' => some '\r'
  | 't' => some '\t'
  | _ => none

/-- Whether a character must not stand in a string as it is. -/
def isControl (c : Char) : Bool := c.toNat < 0x20

/-- Read on in a string of which `read` is known already, latest first. -/
def stringFrom (read : List Char) : Reader (List Char)
  | [] => failHere .endInString []
  | '"' :: rest => .ok (read.reverse, rest)
  | ['\\'] => failHere .endInString []
  | '\\' :: 'u' :: a :: b :: c :: d :: rest =>
      match fourDigits? [a, b, c, d] with
      | none => noFourDigits (a :: b :: c :: d :: rest)
      | some unit =>
          if isLowSurrogate unit then failHere .loneSurrogate rest
          else if isHighSurrogate unit then
            match rest with
            | '\\' :: 'u' :: a :: b :: c :: d :: rest =>
                match fourDigits? [a, b, c, d] with
                | none => noFourDigits (a :: b :: c :: d :: rest)
                | some low =>
                    if isLowSurrogate low then stringFrom (ofSurrogates unit low :: read) rest
                    else failHere .loneSurrogate rest
            | '\\' :: 'u' :: rest => noFourDigits rest
            | ['\\'] => failHere .endInString []
            | '\\' :: rest => failAtNext .surrogateWanted rest
            | [] => failHere .endInString []
            | rest => failAtNext .surrogateWanted rest
          else stringFrom (Char.ofNat unit :: read) rest
  | '\\' :: 'u' :: rest => noFourDigits rest
  | '\\' :: c :: rest =>
      match shortEscape? c with
      | some meant => stringFrom (meant :: read) rest
      | none => .error ⟨.badEscape, c :: rest, 1⟩
  | c :: rest => if isControl c then failHere .bareControl rest else stringFrom (c :: read) rest

/-- Read a string from behind its opening quote. -/
def string : Reader (List Char) := stringFrom []

/-- Pass over a string from behind its opening quote. -/
def skipString : List Char → Except Failure (List Char)
  | [] => failHere .endInString []
  | '"' :: rest => .ok rest
  | ['\\'] => failHere .endInString []
  | '\\' :: 'u' :: a :: b :: c :: d :: rest =>
      match fourDigits? [a, b, c, d] with
      | none => noFourDigits (a :: b :: c :: d :: rest)
      | some _ => skipString rest
  | '\\' :: 'u' :: rest => noFourDigits rest
  | '\\' :: c :: rest =>
      match shortEscape? c with
      | some _ => skipString rest
      | none => .error ⟨.badEscape, c :: rest, 1⟩
  | c :: rest => if isControl c then failHere .bareControl (c :: rest) else skipString rest

/-- How a character is written in a string. -/
def escape (c : Char) : List Char :=
  if c = '"' then ['\\', '"']
  else if c = '\\' then ['\\', '\\']
  else if c = '\x08' then ['\\', 'b']
  else if c = '\x0c' then ['\\', 'f']
  else if c = '\n' then ['\\', 'n']
  else if c = '\r' then ['\\', 'r']
  else if c = '\t' then ['\\', 't']
  else if isControl c then
    ['\\', 'u', '0', '0', Nat.digitChar (c.toNat / 16), Nat.digitChar (c.toNat % 16)]
  else [c]

/-- A string in quotes. -/
def quote (text : List Char) : List Char := '"' :: text.flatMap escape ++ ['"']

end TagCheck.Json
