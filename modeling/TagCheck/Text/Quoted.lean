/-
# Text in quotes

Text shown in double quotes, so that a reader sees where it begins and ends and
what is in it.  Quotes and backslashes are escaped, the usual controls have short
escapes, and other characters that do not show are written by their code points.
-/

import TagCheck.Text.Printable

namespace TagCheck.Quoted

/-- The digits of a number in lowercase hexadecimal. -/
def hex (n : Nat) : List Char := Nat.toDigits 16 n

/-- How a character is written between the quotes. -/
def escape (c : Char) : List Char :=
  if c = '\x00' then ['\\', '0']
  else if c = '\t' then ['\\', 't']
  else if c = '\r' then ['\\', 'r']
  else if c = '\n' then ['\\', 'n']
  else if c = '"' || c = '\\' then ['\\', c]
  else if Printable.isShown c then [c]
  else ['\\', 'u', '\x7b'] ++ hex c.toNat ++ ['\x7d']

/-- The text in quotes. -/
def quote (text : String) : String :=
  "\"" ++ String.ofList (text.toList.flatMap escape) ++ "\""

end TagCheck.Quoted
