/-
# Which angle brackets belong to types

In TSX a `<` before a letter opens either an element or something of the type
level: type arguments, a cast, an annotation.  Only a type checker could decide
exactly; here the text right before the bracket decides, by an ordered table of
rules of which the first that applies wins.  A bracket that no rule claims opens
an element.
-/

import TagCheck.Text.Byte

namespace TagCheck

/-- The text before an angle bracket, cut into the pieces the rules look at. -/
structure Lookbehind where
  /-- The whitespace right before the bracket, nearest byte first. -/
  gap : List UInt8
  /-- The word before the gap, in reading order; empty if the byte there is no
  word byte. -/
  word : List UInt8
  /-- All that precedes the word, nearest byte first. -/
  beyond : List UInt8
  deriving DecidableEq, Repr

namespace Lookbehind

/-- Cut up the bytes before a bracket, given nearest first. -/
def ofBefore (before : List UInt8) : Lookbehind :=
  let trimmed := before.dropWhile Byte.isWhitespace
  { gap := before.takeWhile Byte.isWhitespace
    word := (trimmed.takeWhile Byte.isWord).reverse
    beyond := trimmed.dropWhile Byte.isWord }

/-- The nearest byte that is not whitespace. -/
def previous (l : Lookbehind) : Option UInt8 := l.word.getLast?.or l.beyond.head?

/-- Whether a word touches the bracket. -/
def wordAbuts (l : Lookbehind) : Bool := !l.word.isEmpty && l.gap.isEmpty

/-- What precedes the word once blanks, but not line ends, are passed. -/
def anchor (l : Lookbehind) : List UInt8 := l.beyond.dropWhile Byte.isBlank

/-- The byte before the word, or before the bracket if there is no word. -/
def beforeWord (l : Lookbehind) : Option UInt8 := l.anchor.head?

/-- Whether the word follows a dot directly, as a method name does. -/
def wordFollowsDot (l : Lookbehind) : Bool := l.beyond.head? == some Byte.dot

/-- Whether the byte before the word is the second of two ampersands or follows
one. -/
def anchorFollowsAmpersand (l : Lookbehind) : Bool := l.anchor.tail.head? == some Byte.ampersand

/-- The word as text. -/
def wordText (l : Lookbehind) : String := Byte.spell l.word

end Lookbehind

/-- The ways a bracket is recognised as one of the type level. -/
inductive Rule where
  /-- A colon or a closing bracket stands before it. -/
  | annotated
  /-- A word that introduces types stands before it. -/
  | typeKeyword
  /-- A generic name touches it. -/
  | abuttingGeneric
  /-- The word before it, or the bracket itself, follows type punctuation. -/
  | typePunctuation
  /-- A single ampersand stands before it. -/
  | intersection
  deriving DecidableEq, Repr

namespace Rule

def name : Rule → String
  | annotated => "annotation"
  | typeKeyword => "type_keyword"
  | abuttingGeneric => "abutting_generic"
  | typePunctuation => "type_punctuation"
  | intersection => "intersection"

/-- Words after which a bracket opens type arguments or a type expression. -/
def typeKeywords : List String :=
  ["satisfies", "extends", "implements", "as", "type", "new", "typeof", "keyof", "infer"]

/-- Lowercase names that commonly take explicit type arguments. -/
def genericCallees : List String :=
  ["string", "number", "forwardRef", "memo", "lazy", "createContext", "useState", "useRef",
    "useReducer", "useContext", "useCallback", "useMemo"]

/-- Bytes after which a bracket is of the type level. -/
def typePunctuationBytes : List UInt8 :=
  [Byte.colon, Byte.semicolon, Byte.comma, Byte.equals, Byte.bar, Byte.question]

/-- Whether a rule claims the bracket that a lookbehind belongs to. -/
def applies : Rule → Lookbehind → Bool
  | annotated, l => l.previous == some Byte.colon || l.previous == some Byte.closeBracket
  | typeKeyword, l => typeKeywords.contains l.wordText
  | abuttingGeneric, l =>
      l.wordAbuts &&
        (l.word.head?.any Byte.isUpper || genericCallees.contains l.wordText || l.wordFollowsDot)
  | typePunctuation, l => l.beforeWord.any typePunctuationBytes.contains
  | intersection, l => l.beforeWord == some Byte.ampersand && !l.anchorFollowsAmpersand

/-- All rules, in order of priority. -/
def table : List Rule :=
  [annotated, typeKeyword, abuttingGeneric, typePunctuation, intersection]

end Rule

/-- The rule that makes a bracket one of the type level, given the bytes before it
nearest first; `none` if the bracket opens an element. -/
def classify (before : List UInt8) : Option Rule :=
  Rule.table.find? (·.applies (Lookbehind.ofBefore before))

end TagCheck
