/-
# Lexemes

What the lexer finds in a text, apart from what it passes over: tags, and
stretches of the type level that it skips.  Lexemes know nothing of nesting.
-/

import TagCheck.Markup.AngleBracket
import TagCheck.Text.Position

namespace TagCheck

/-- How a tag takes part in nesting. -/
inductive TagForm where
  | opening
  | closing
  /-- A tag that is an element on its own: it ends with `/>` or is a void
  element. -/
  | single
  deriving DecidableEq, Repr

/-- A tag as it stands in the text. -/
structure Tag where
  form : TagForm
  /-- Empty for the tags of a fragment. -/
  name : String
  /-- Where its `<` is. -/
  site : Position
  /-- The offset just past its last byte. -/
  stop : Nat
  deriving DecidableEq, Repr

namespace Tag

def span (t : Tag) : Span := t.site.spanTo t.stop

end Tag

/-- What a `<` in code turned out to begin. -/
inductive Lexeme where
  | tag (tag : Tag)
  /-- A stretch of the type level, with the rule that gave it away. -/
  | typeBrackets (site : Position) (rule : Rule)
  deriving DecidableEq, Repr

end TagCheck
