/-
# Fatal errors

When the settings of a project cannot be used, nothing is checked.  The error is
shown with its code, then what it is about, and what lies behind it, each wrapped to
the width of a terminal and marked on its first line.
-/

import TagCheck.Config.Load
import TagCheck.Text.Wrapping

namespace TagCheck.CommandLine

/-- The width lines are wrapped to. -/
def lineWidth : Nat := 78

/-- What stands in front of the lines of a paragraph. -/
structure Margin where
  /-- In front of the first line. -/
  first : String
  /-- In front of the others. -/
  next : String
  /-- The columns that either takes. -/
  columns : Nat
  deriving DecidableEq, Repr

namespace Margin

/-- The margin of an error. -/
def error (paint : String → String) : Margin :=
  ⟨"  " ++ paint "×" ++ " ", "  " ++ paint "│" ++ " ", 4⟩

/-- The margin of what lies behind an error. -/
def cause (paint : String → String) : Margin := ⟨paint "  ╰─▶ ", paint "      ", 6⟩

/-- A text as a paragraph with a margin. -/
def paragraph (margin : Margin) (text : String) : List String :=
  match Wrapping.wrap (lineWidth - margin.columns) text with
  | [] => []
  | line :: rest => (margin.first ++ line) :: rest.map (margin.next ++ ·)

end Margin

/-- The lines that show an error in the settings. -/
def fatalLines (colored : Bool) (error : SetupError) : List String :=
  let paint (text : String) : String := if colored then "\x1b[31m" ++ text ++ "\x1b[0m" else text
  let cause := match error.cause with
    | some cause => (Margin.cause paint).paragraph cause
    | none => []
  [paint error.code, ""] ++ (Margin.error paint).paragraph error.message ++ cause ++ [""]

end TagCheck.CommandLine
