/-
# Reading JSON

A reader takes what is left of a text and hands back a value with what is left
after it.  Values are read into a shape that is known beforehand, so the first
thing that is wrong is reported, be it the syntax or the shape.

A failure carries its cause and the place where reading stood.  Line and column of
the place are worked out from the whole text; columns count bytes.
-/

import TagCheck.Text.Quoted

namespace TagCheck.Json

/-- What can be wrong with a text that should be JSON of some shape. -/
inductive Fault where
  | endInList
  | endInObject
  | endInString
  | endInValue
  | colonWanted
  | listCommaOrEndWanted
  | objectCommaOrEndWanted
  /-- Something began like `null`, `true` or `false` and went on otherwise. -/
  | wordWanted
  | valueWanted
  | keyWanted
  | badEscape
  | badNumber
  | numberTooLarge
  | bareControl
  | loneSurrogate
  | surrogateWanted
  | commaAtEnd
  | moreAtEnd
  /-- A value of another type than the shape has there. -/
  | wrongType (found : String) (wanted : String)
  /-- A value of the right type that is out of range. -/
  | wrongValue (found : String) (wanted : String)
  | wrongLength (length : Nat) (wanted : String)
  | unknownWord (word : String) (known : List String)
  | repeatedField (name : String)
  deriving DecidableEq, Repr

namespace Fault

/-- Names in code quotes, as in "a", "a or b". -/
def choice : List String → String
  | [] => "nothing"
  | [only] => "`" ++ only ++ "`"
  | [first, second] => "`" ++ first ++ "` or `" ++ second ++ "`"
  | several => "one of " ++ ", ".intercalate (several.map fun word => "`" ++ word ++ "`")

def message : Fault → String
  | endInList => "EOF while parsing a list"
  | endInObject => "EOF while parsing an object"
  | endInString => "EOF while parsing a string"
  | endInValue => "EOF while parsing a value"
  | colonWanted => "expected `:`"
  | listCommaOrEndWanted => "expected `,` or `]`"
  | objectCommaOrEndWanted => "expected `,` or `\x7d`"
  | wordWanted => "expected ident"
  | valueWanted => "expected value"
  | keyWanted => "key must be a string"
  | badEscape => "invalid escape"
  | badNumber => "invalid number"
  | numberTooLarge => "number out of range"
  | bareControl => "control character (\\u0000-\\u001F) found while parsing a string"
  | loneSurrogate => "lone leading surrogate in hex escape"
  | surrogateWanted => "unexpected end of hex escape"
  | commaAtEnd => "trailing comma"
  | moreAtEnd => "trailing characters"
  | wrongType found wanted => "invalid type: " ++ found ++ ", expected " ++ wanted
  | wrongValue found wanted => "invalid value: " ++ found ++ ", expected " ++ wanted
  | wrongLength length wanted => "invalid length " ++ toString length ++ ", expected " ++ wanted
  | unknownWord word known => "unknown variant `" ++ word ++ "`, expected " ++ choice known
  | repeatedField name => "duplicate field `" ++ name ++ "`"

end Fault

/-- A fault and where reading stood when it was met. -/
structure Failure where
  fault : Fault
  /-- What was left of the text. -/
  rest : List Char
  /-- How many bytes further the fault lies. -/
  ahead : Nat
  deriving DecidableEq, Repr

/-- A way to read a value at the front of a text. -/
abbrev Reader (α : Type) := List Char → Except Failure (α × List Char)

/-- Fail where reading stands. -/
def failHere {α : Type} (fault : Fault) (rest : List Char) : Except Failure α :=
  .error ⟨fault, rest, 0⟩

/-- Fail at the next byte, which was looked at but not read. -/
def failAtNext {α : Type} (fault : Fault) (rest : List Char) : Except Failure α :=
  .error ⟨fault, rest, 1⟩

/-- Where a failure lies in its text. -/
structure Place where
  line : Nat
  column : Nat
  deriving DecidableEq, Repr

/-- How many bytes a text takes up. -/
def byteLength (text : List Char) : Nat := text.foldl (fun size c => size + c.utf8Size) 0

/-- The place after the first `count` bytes of a text. -/
def Place.after (count : Nat) (bytes : List UInt8) : Place :=
  let passed := bytes.take count
  ⟨passed.count 0x0A + 1, (passed.reverse.takeWhile (· != 0x0A)).length⟩

/-- The place of a failure in a text. -/
def Failure.place (f : Failure) (text : List Char) : Place :=
  Place.after (byteLength text - byteLength f.rest + f.ahead) (String.ofList text).toUTF8.toList

/-- What went wrong and where. -/
def Failure.message (f : Failure) (text : List Char) : String :=
  let place := f.place text
  f.fault.message ++ " at line " ++ toString place.line ++ " column " ++ toString place.column

/-- Space between the parts of a JSON text. -/
def isBlank (c : Char) : Bool := c = ' ' || c = '\n' || c = '\t' || c = '\r'

def skipBlanks (text : List Char) : List Char := text.dropWhile isBlank

/-- Read the rest of a word of which the first letter is read already. -/
def wordRest : List Char → List Char → Except Failure (List Char)
  | [], text => .ok text
  | _ :: _, [] => failHere .endInValue []
  | expected :: word, c :: text =>
      if c = expected then wordRest word text else failAtNext .wordWanted (c :: text)

end TagCheck.Json
