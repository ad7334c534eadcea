/-
# Text without terminal codes

Text from outside may hold sequences that tell a terminal to do something.  Where it
is quoted in plain output they are left out, and so are control characters other than
blanks.

A sequence begins with the escape character.  One of the blanks among the controls
ends it early; the characters for cancel and substitute end it without showing.
-/

namespace TagCheck.Terminal

/-- Where in a sequence for the terminal a text is. -/
inductive Place where
  | outside
  /-- Behind the escape character. -/
  | escape
  /-- In an escape sequence of more than one character. -/
  | longEscape
  /-- In a control sequence. -/
  | control
  /-- In a command, which a bell ends. -/
  | command
  /-- In a string for a device or a program. -/
  | string
  deriving DecidableEq, Repr

/-- Blanks among the control characters. -/
def isControlBlank (c : Char) : Bool := c = '\t' || c = '\n' || c = '\x0c' || c = '\r'

/-- Whether a character shows outside of sequences. -/
def isPlain (c : Char) : Bool := 0x20 ≤ c.toNat && c.toNat != 0x7F || isControlBlank c

/-- Whether an ASCII character is in the range that is neither control nor delete. -/
def isGraphic (c : Char) : Bool := 0x20 ≤ c.toNat && c.toNat < 0x7F

/-- The place behind the character after the escape character. -/
def afterEscape (c : Char) : Place :=
  if c = '[' then .control
  else if c = ']' then .command
  else if c = 'P' || c = 'X' || c = '^' || c = '_' then .string
  else if !isGraphic c then .escape
  else if c.toNat < 0x30 then .longEscape
  else .outside

/-- Whether one of the bytes of a character ends a string for a device. -/
def endsString (c : Char) : Bool := (String.utf8EncodeChar c).contains 0x9C

/-- The place behind a character that no sequence starts with. -/
def Place.next (place : Place) (c : Char) : Place :=
  match place with
  | .outside => .outside
  | .escape => afterEscape c
  | .longEscape => if isGraphic c && 0x30 ≤ c.toNat then .outside else .longEscape
  | .control => if isGraphic c && 0x40 ≤ c.toNat then .outside else .control
  | .command => if c = '\x07' then .outside else .command
  | .string => if endsString c then .outside else .string

/-- Whether blanks among the control characters show at a place. -/
def Place.showsBlanks : Place → Bool
  | .command | .string => false
  | _ => true

/-- The characters that are left of a text. -/
def leaveFrom (place : Place) : List Char → List Char
  | [] => []
  | c :: rest =>
      if c = '\x1b' then leaveFrom .escape rest
      else if c = '\x18' || c = '\x1a' then leaveFrom .outside rest
      else if place == .outside && isPlain c || place.showsBlanks && isControlBlank c then
        c :: leaveFrom .outside rest
      else leaveFrom (place.next c) rest

/-- A text without terminal codes. -/
def plainText (text : String) : String := String.ofList (leaveFrom .outside text.toList)

end TagCheck.Terminal
