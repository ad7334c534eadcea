/-
# Bytes with a meaning

Markup is read byte by byte, and every delimiter is ASCII.  This module names
the delimiters and the byte classes that the lexer and the classifier of angle
brackets consult.  Bytes from `0x80` up belong to no class except that some of
them continue a character begun earlier; nothing else here tells them apart.
-/

namespace TagCheck

/-- The bytes of a text, in reading order.  A text need not be valid UTF-8. -/
abbrev Text := List UInt8

namespace Byte

def tab : UInt8 := 0x09
def lineFeed : UInt8 := 0x0A
def carriageReturn : UInt8 := 0x0D
def space : UInt8 := 0x20
def doubleQuote : UInt8 := 0x22
def dollar : UInt8 := 0x24
def ampersand : UInt8 := 0x26
def singleQuote : UInt8 := 0x27
def asterisk : UInt8 := 0x2A
def comma : UInt8 := 0x2C
def minus : UInt8 := 0x2D
def dot : UInt8 := 0x2E
def slash : UInt8 := 0x2F
def colon : UInt8 := 0x3A
def semicolon : UInt8 := 0x3B
def lessThan : UInt8 := 0x3C
def equals : UInt8 := 0x3D
def greaterThan : UInt8 := 0x3E
def question : UInt8 := 0x3F
def backslash : UInt8 := 0x5C
def closeBracket : UInt8 := 0x5D
def underscore : UInt8 := 0x5F
def backquote : UInt8 := 0x60
def openBrace : UInt8 := 0x7B
def bar : UInt8 := 0x7C
def closeBrace : UInt8 := 0x7D

def isUpper (b : UInt8) : Bool := 0x41 ≤ b && b ≤ 0x5A

def isLower (b : UInt8) : Bool := 0x61 ≤ b && b ≤ 0x7A

def isLetter (b : UInt8) : Bool := isUpper b || isLower b

def isDigit (b : UInt8) : Bool := 0x30 ≤ b && b ≤ 0x39

/-- Whitespace that stays on its line. -/
def isBlank (b : UInt8) : Bool := b == space || b == tab

/-- Whitespace, the two bytes that end lines included. -/
def isWhitespace (b : UInt8) : Bool :=
  isBlank b || b == lineFeed || b == carriageReturn

/-- What a word is made of: ASCII letters, digits and the underscore. -/
def isWord (b : UInt8) : Bool := isLetter b || isDigit b || b == underscore

/-- The quotes that delimit strings in code and values in tags. -/
def isQuote (b : UInt8) : Bool := b == doubleQuote || b == singleQuote

/-- UTF-8 writes a character as one leading byte and up to three continuation
bytes; only the leading byte starts a new column. -/
def isContinuation (b : UInt8) : Bool := b &&& 0xC0 == 0x80

/-- The text that ASCII bytes spell. -/
def spell (bytes : List UInt8) : String := String.ofList (bytes.map Char.ofUInt8)

end Byte

end TagCheck
