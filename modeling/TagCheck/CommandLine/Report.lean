/-
# Reports

The records of a run as text, line by line with a summary at the end, or as one JSON
object.  Defects go to the error output, except in JSON.

A report of text can show each defect in its file.  How that is drawn is not laid down
here; it comes with the defect as lines ready to be printed.
-/

import TagCheck.CommandLine.Invocation
import TagCheck.CommandLine.Record
import TagCheck.Decimal.Shortest
import TagCheck.Json.Value

namespace TagCheck.CommandLine

/-- The two outputs of a program. -/
inductive Channel where
  | out
  | err
  deriving DecidableEq, Repr

/-- A line of output. -/
structure OutputLine where
  channel : Channel
  text : String
  deriving DecidableEq, Repr

namespace OutputLine

def out (text : String) : OutputLine := ⟨.out, text⟩

def err (text : String) : OutputLine := ⟨.err, text⟩

end OutputLine

/-- How a report looks. -/
structure Style where
  format : OutputFormat := .text
  quiet : Bool := false
  colored : Bool := false
  snippets : Bool := false
  deriving DecidableEq, Repr

namespace Style

def red : String := "\x1b[31m"
def green : String := "\x1b[32m"
def yellow : String := "\x1b[33m"
def plain : String := "\x1b[0m"

/-- A text in a color, if colors are used. -/
def paint (s : Style) (color : String) (text : String) : String :=
  if s.colored then color ++ text ++ plain else text

/-- The lines about a defect of the file at a path, with those that show it in the file if
that is asked for. -/
def defectLines (s : Style) (shown : List OutputLine) (path : String) (defect : Defect) :
    List OutputLine :=
  let place := match defect.position with
    | some position => ":" ++ position.display
    | none => ""
  .err (s.paint red "✗" ++ " " ++ path ++ place ++ ": " ++ defect.message) ::
    if s.snippets then shown else []

/-- The lines about one record in a report of text, given what shows a defect of the file at
a path. -/
def recordLines (s : Style) (shownAt : String → Defect → List OutputLine) (r : Record) :
    List OutputLine :=
  match r.finding with
  | .skipped => if s.quiet then [] else [.err ("Skipping non-TSX file: " ++ r.path)]
  | .ignored =>
      if s.quiet then [] else [.out (s.paint yellow "⊘" ++ " " ++ r.path ++ " (ignored)")]
  | .checked verdict =>
      match verdict.defect with
      | some defect => s.defectLines (shownAt r.path defect) r.path defect
      | none =>
          if s.quiet then []
          else
            [.out (s.paint green "✓" ++ " " ++ r.path ++ " (" ++ toString verdict.tagsChecked ++
              " tags)")]

end Style

/-- A time in milliseconds as seconds with three places. -/
def seconds (milliseconds : Nat) : String :=
  let fraction := toString (milliseconds % 1000)
  toString (milliseconds / 1000) ++ "." ++
    String.ofList (List.replicate (3 - fraction.length) '0') ++ fraction

/-- The line at the end of a report of text. -/
def summaryLine (t : Tally) (elapsed : Nat) : String :=
  "Checked " ++ toString t.summary.filesChecked ++ " files, " ++
    toString t.summary.tagsChecked ++ " tags in " ++ seconds elapsed ++ "s" ++
    if t.errors > 0 then " - " ++ toString t.errors ++ " error(s) found" else ""

/-- The lines at the end of a report of text.  A quiet report of nothing wrong has
none. -/
def Style.summaryLines (s : Style) (t : Tally) (elapsed : Nat) : List OutputLine :=
  if s.quiet && t.errors = 0 then []
  else [.out "", .out (s.paint (if t.errors > 0 then red else green) (summaryLine t elapsed))]

/-- A defect as a JSON value. -/
def defectJson (defect : Defect) : Json.Value :=
  let coordinate (pick : Position → Nat) : Json.Value :=
    match defect.position with
    | some position => .natural (pick position)
    | none => .null
  .object [
    ("kind", .string defect.kind.name),
    ("message", .string defect.message),
    ("line", coordinate (·.line)),
    ("column", coordinate (·.column))]

/-- A record as a JSON value. -/
def recordJson (r : Record) : Json.Value :=
  let status (text : String) : List (String × Json.Value) :=
    [("path", .string r.path), ("status", .string text)]
  .object <|
    match r.finding with
    | .skipped => status "skipped"
    | .ignored => status "ignored"
    | .checked verdict =>
        let tags := ("tags", Json.Value.natural verdict.tagsChecked)
        match verdict.defect with
        | some defect => status "error" ++ [tags, ("error", defectJson defect)]
        | none => status "ok" ++ [tags]

/-- A time in milliseconds as a number of seconds. -/
def secondsNumber (milliseconds : Nat) : String :=
  if milliseconds = 0 then "0.0" else Decimal.render ⟨milliseconds, -3⟩

/-- A report as a JSON value. -/
def reportJson (t : Tally) (elapsed : Nat) : Json.Value :=
  .object [
    ("files", .array (t.records.map recordJson)),
    ("filesChecked", .natural t.summary.filesChecked),
    ("tagsChecked", .natural t.summary.tagsChecked),
    ("errors", .natural t.errors),
    ("elapsedSecs", .number (secondsNumber elapsed))]

/-- The labels of a defect line by line, which is the plainest way to show it. -/
def labelLines (_path : String) (_contents : Text) (defect : Defect) : List String :=
  defect.labels.map fun label => "  " ++ label.span.debug ++ ": " ++ label.remark

end TagCheck.CommandLine
