/-
# Log lines

An event is logged as a line of text, in color or not, or as a JSON object.  Events
of a batch carry the batch along, unless the filter leaves batches out.
-/

import TagCheck.Json.Value
import TagCheck.Log.Filter
import TagCheck.Text.Quoted

namespace TagCheck.Log

/-- An event with its context. -/
structure Entry where
  event : Event
  /-- The batch in which it happened. -/
  batch : Option Batch := none
  deriving DecidableEq, Repr

/-- How log lines look. -/
inductive Layout where
  | text (colored : Bool)
  | json
  deriving DecidableEq, Repr

/-- What is logged, and how. -/
structure Settings where
  filter : Filter
  layout : Layout
  /-- The time that lines bear. -/
  stamp : String
  deriving DecidableEq, Repr

/-- The name of a level as it stands in lines. -/
def levelName (level : Level) : String := level.name.toUpper

/-- A text with the escape codes of a style around it, if lines are colored. -/
def styled (colored : Bool) (style : String) (text : String) : String :=
  if colored then "\x1b[" ++ style ++ "m" ++ text ++ "\x1b[0m" else text

namespace Style

def bold : String := "1"
def dim : String := "2"
def italic : String := "3"

/-- The color of a level. -/
def ofLevel : Level → String
  | .error => "31"
  | .warn => "33"
  | .info => "32"
  | .debug => "34"
  | .trace => "35"

end Style

/-- The value of a field in a line of text. -/
def valueText : FieldValue → String
  | .quoted text => Quoted.quote text
  | .plain text => text
  | .count value => toString value
  | .flag value => toString value

/-- The value of a field in a JSON object. -/
def valueJson : FieldValue → Json.Value
  | .quoted text => .string text
  | .plain text => .string text
  | .count value => .natural value
  | .flag value => .bool value

/-- A named value in a line of text. -/
def fieldText (colored : Bool) (name : String) (value : FieldValue) : String :=
  styled colored Style.italic name ++ styled colored Style.dim "=" ++ valueText value

/-- The batch in front of a line of text. -/
def batchText (colored : Bool) (batch : Batch) : String :=
  styled colored Style.bold Batch.name ++ styled colored Style.bold "\x7b" ++
    fieldText colored Batch.filesField (.count batch.files) ++ styled colored Style.bold "\x7d" ++
    styled colored Style.dim ":" ++ " "

/-- An event as a line of text. -/
def textLine (colored : Bool) (stamp : String) (event : Event) (batch : Option Batch) : String :=
  let level := levelName event.level
  let padded := String.ofList (List.replicate (5 - level.length) ' ') ++ level
  let context := match batch with
    | some batch => batchText colored batch
    | none => ""
  let fields := event.fields.map fun (name, value) => " " ++ fieldText colored name value
  styled colored Style.dim stamp ++ " " ++
    styled colored (Style.ofLevel event.level) padded ++ " " ++ context ++
    styled colored Style.dim event.target ++ styled colored Style.dim ":" ++ " " ++
    event.message ++ String.join fields

/-- A batch as a JSON object. -/
def batchJson (batch : Batch) : Json.Value :=
  .object [(Batch.filesField, .natural batch.files), ("name", .string Batch.name)]

/-- An event as a JSON object. -/
def eventJson (stamp : String) (event : Event) (batch : Option Batch) : Json.Value :=
  let fields := event.fields.map fun (name, value) => (name, valueJson value)
  let context := match batch with
    | some batch => [("span", batchJson batch), ("spans", .array [batchJson batch])]
    | none => []
  .object ([
    ("timestamp", .string stamp),
    ("level", .string (levelName event.level)),
    ("fields", .object (("message", .string event.message) :: fields)),
    ("target", .string event.target)] ++ context)

/-- The line for an entry, if the filter lets it through. -/
def Settings.line? [Json.Writer] (s : Settings) (entry : Entry) : Option String :=
  if s.filter.enables entry.event entry.batch then
    let batch := entry.batch.filter s.filter.showsBatch
    some <|
      match s.layout with
      | .text colored => textLine colored s.stamp entry.event batch
      | .json => Json.Writer.line (eventJson s.stamp entry.event batch)
  else none

end TagCheck.Log
