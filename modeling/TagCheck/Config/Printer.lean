/-
# Writing a configuration

A configuration is written as one line of JSON with all fields in order; `null`
stands for what is not given.
-/

import TagCheck.Config.Field
import TagCheck.Json.Value

namespace TagCheck.Config

/-- A setting as a value to be written. -/
def Setting.json : Setting → Json.Value
  | .texts values => .array (values.map .string)
  | .count value => .natural value
  | .policy value => .string value.keyword
  | .flag value => .bool value

/-- What is written for a field. -/
def fieldJson (c : Config) (field : Field) : Json.Value :=
  match c.setting? field with
  | some setting => setting.json
  | none => .null

/-- The configuration as a value to be written. -/
def json (c : Config) : Json.Value :=
  .object (Field.all.map fun field => (field.name, c.fieldJson field))

/-- The configuration as JSON. -/
def render [Json.Writer] (c : Config) : String := Json.Writer.line c.json

end TagCheck.Config
