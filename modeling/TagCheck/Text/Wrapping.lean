/-
# Wrapping

A text that is too wide is put on several lines.  A line is broken at the last place
that lets it fit, behind a hyphen in a word if need be, and a word that is wider than
a line is cut where the line is full.  Spaces at a break are dropped.

Every line end of the text starts a new line.
-/

import TagCheck.Text.Alphanumeric
import TagCheck.Text.Columns
import TagCheck.Text.LineBreak
import TagCheck.Text.Pieces

namespace TagCheck.Wrapping

/-- A part of a line that stays together. -/
structure Word where
  text : List Char
  /-- The number of spaces behind it, which show only if more follows on the line. -/
  spaces : Nat := 0
  deriving DecidableEq, Repr

namespace Word

/-- The columns of a word without the spaces behind it. -/
def width (word : Word) : Nat := Columns.ofText word.text

/-- The word that a piece of a line is. -/
def ofPiece (piece : List Char) : Word :=
  let text := (piece.reverse.dropWhile (· = ' ')).reverse
  ⟨text, piece.length - text.length⟩

/-- The words that the parts of a word are, of which the last has the spaces. -/
def ofParts (spaces : Nat) : List (List Char) → List Word
  | [] => [⟨[], spaces⟩]
  | [last] => [⟨last, spaces⟩]
  | part :: rest => ⟨part, 0⟩ :: ofParts spaces rest

end Word

/-- Cut a list before every marked element; `part` is what has been read since the last
cut, backwards. -/
def cutFrom {α : Type} (part : List α) : List (α × Bool) → List (List α)
  | [] => if part.isEmpty then [] else [part.reverse]
  | (x, isMarked) :: rest =>
      if isMarked && !part.isEmpty then part.reverse :: cutFrom [x] rest
      else cutFrom (x :: part) rest

/-- Cut a list before every marked element. -/
def cut {α : Type} (marked : List (α × Bool)) : List (List α) := cutFrom [] marked

/-- Whether a line is never broken behind the character on account of it: hyphens are
looked at in words, and soft hyphens not at all. -/
def holdsBack (c : Char) : Bool := c = '-' || c = '\u00ad'

/-- Take back the first of the places that are left. -/
def withoutFirst : List Bool → List Bool
  | [] => []
  | true :: rest => false :: rest
  | false :: rest => false :: withoutFirst rest

/-- Take back the last place. -/
def withoutLast (places : List Bool) : List Bool := (withoutFirst places.reverse).reverse

/-- For each character whether a word begins with it.  The end of the text is a place,
too, unless its last character holds it back, and the last place of all is not
used. -/
def wordPlaces (text : List Char) : List Bool :=
  let before := false :: text.map holdsBack
  let places := (LineBreak.places text).zipWith (fun place held => place && !held) before
  if text.getLast?.any holdsBack then withoutLast places else places

/-- Mark the characters before which words begin, given the places for those that show.
What does not show goes to the word of what shows behind it.  `marked` tells whether
the next place has its mark already. -/
def markPlaces (marked : Bool) : List (Char × Bool) → List Bool → List (Char × Bool)
  | [], _ => []
  | (c, true) :: rest, places =>
      (c, !marked && places.headD false) :: markPlaces false rest places.tail
  | (c, false) :: rest, places =>
      (c, !marked && places.headD false) :: markPlaces true rest places

/-- The words of a line. -/
def wordsOf (line : List Char) : List Word :=
  let places := wordPlaces (Columns.shown line)
  (cut (markPlaces false (Columns.marked line) places)).map Word.ofPiece

/-- Mark the characters behind hyphens between letters or digits; `first` and `second`
are the characters before. -/
def markHyphens (first second : Option Char) : List Char → List (Char × Bool)
  | [] => []
  | c :: rest =>
      let behind := second == some '-' && first.any Alphanumeric.isAlphanumeric &&
        Alphanumeric.isAlphanumeric c
      (c, behind) :: markHyphens second (some c) rest

/-- The parts of a word, each but the last with a hyphen at its end. -/
def splitAtHyphens (word : Word) : List Word :=
  Word.ofParts word.spaces (cut (markHyphens none none word.text))

/-- Mark the characters that do not fit behind those before; `used` columns are taken
by those since the last mark. -/
def markFull (limit used : Nat) : List (Char × Bool) → List (Char × Bool)
  | [] => []
  | (c, false) :: rest => (c, false) :: markFull limit used rest
  | (c, true) :: rest =>
      let width := Columns.ofChar c
      if used > 0 && used + width > limit then (c, true) :: markFull limit width rest
      else (c, false) :: markFull limit (used + width) rest

/-- The parts of a word that is wider than a line, each of which fits on one. -/
def splitWide (limit : Nat) (word : Word) : List Word :=
  if word.width ≤ limit then [word]
  else Word.ofParts word.spaces (cut (markFull limit 0 (Columns.marked word.text)))

/-- Put words on lines; `line` has the words on the last line so far, backwards, which
take `used` columns with their spaces. -/
def fill (limit used : Nat) (line : List Word) : List Word → List (List Word)
  | [] => [line.reverse]
  | word :: rest =>
      if !line.isEmpty && used + word.width > limit then
        line.reverse :: fill limit (word.width + word.spaces) [word] rest
      else fill limit (used + word.width + word.spaces) (word :: line) rest

/-- The text of a line with these words. -/
def lineText : List Word → List Char
  | [] => []
  | [last] => last.text
  | word :: rest => word.text ++ List.replicate word.spaces ' ' ++ lineText rest

/-- The lines that a line is put on, none of them wider than the limit. -/
def wrapLine (limit : Nat) (line : List Char) : List String :=
  let words := ((wordsOf line).flatMap splitAtHyphens).flatMap (splitWide limit)
  (fill limit 0 [] words).map fun words => String.ofList (lineText words)

/-- The lines that a text is put on, none of them wider than the limit. -/
def wrap (limit : Nat) (text : String) : List String :=
  (pieces '\n' text.toList).flatMap (wrapLine limit)

end TagCheck.Wrapping
