/-
# Writing JSON

Values to be written as JSON, on one line or laid out with two spaces for each
level.  Fields keep the order they are given in.

The library leaves the writing to a writer, whichever it is; unless another is named, it
is the one given here.
-/

import TagCheck.Json.Text

namespace TagCheck.Json

/-- A value to be written. -/
inductive Value where
  | null
  | bool (value : Bool)
  /-- A number by its text. -/
  | number (text : String)
  | string (text : String)
  | array (items : List Value)
  | object (fields : List (String × Value))
  deriving Inhabited

namespace Value

def natural (n : Nat) : Value := number (toString n)

/-- Parts with commas between them. -/
def commaSeparated (parts : List (List Char)) : List Char := [','].intercalate parts

mutual

/-- The value on one line. -/
def compact : Value → List Char
  | null => "null".toList
  | bool true => "true".toList
  | bool false => "false".toList
  | number text => text.toList
  | string text => quote text.toList
  | array items => '[' :: commaSeparated (compactItems items) ++ [']']
  | object fields => '\x7b' :: commaSeparated (compactFields fields) ++ ['\x7d']

def compactItems : List Value → List (List Char)
  | [] => []
  | item :: rest => compact item :: compactItems rest

def compactFields : List (String × Value) → List (List Char)
  | [] => []
  | (name, value) :: rest => (quote name.toList ++ ':' :: compact value) :: compactFields rest

end

/-- A line end and the spaces of a level. -/
def newLine (level : Nat) : List Char := '\n' :: List.replicate (2 * level) ' '

/-- Parts one below the other between brackets; nothing between them if there are
none. -/
def block (opening closing : Char) (level : Nat) (parts : List (List Char)) : List Char :=
  if parts.isEmpty then [opening, closing]
  else
    opening :: newLine (level + 1) ++ (',' :: newLine (level + 1)).intercalate parts ++
      newLine level ++ [closing]

mutual

/-- The value laid out, at a level. -/
def layout (level : Nat) : Value → List Char
  | null => compact null
  | bool value => compact (bool value)
  | number text => compact (number text)
  | string text => compact (string text)
  | array items => block '[' ']' level (layoutItems (level + 1) items)
  | object fields => block '\x7b' '\x7d' level (layoutFields (level + 1) fields)

def layoutItems (level : Nat) : List Value → List (List Char)
  | [] => []
  | item :: rest => layout level item :: layoutItems level rest

def layoutFields (level : Nat) : List (String × Value) → List (List Char)
  | [] => []
  | (name, value) :: rest =>
      (quote name.toList ++ ':' :: ' ' :: layout level value) :: layoutFields level rest

end

/-- The text of a value on one line. -/
def toLine (value : Value) : String := String.ofList value.compact

/-- The text of a value laid out. -/
def toText (value : Value) : String := String.ofList (value.layout 0)

end Value

/-- What writes values as JSON. -/
class Writer where
  /-- The text of a value on one line. -/
  line : Value → String
  /-- The text of a value laid out over lines. -/
  text : Value → String

instance : Writer where
  line := Value.toLine
  text := Value.toText

end TagCheck.Json
