/-
# The fields of a configuration file

Which fields a configuration file can have, in the order in which they are
written, and the kind of value each of them holds.
-/

import TagCheck.Config.Basic

namespace TagCheck.Config

/-- A field of a configuration file. -/
inductive Field where
  | extensions
  | ignore
  | maxDepth
  | overflow
  | commentsInTemplateText
  | stopOnFirstError
  | parallel
  deriving DecidableEq, Repr

namespace Field

/-- All fields, in the order in which they are written. -/
def all : List Field :=
  [extensions, ignore, maxDepth, overflow, commentsInTemplateText, stopOnFirstError, parallel]

def name : Field → String
  | extensions => "extensions"
  | ignore => "ignore"
  | maxDepth => "maxDepth"
  | overflow => "overflow"
  | commentsInTemplateText => "commentsInTemplateText"
  | stopOnFirstError => "stopOnFirstError"
  | parallel => "parallel"

/-- The field of this name. -/
def ofName? (name : String) : Option Field := all.find? (·.name == name)

@[simp] theorem ofName?_name (field : Field) : ofName? field.name = some field := by
  cases field <;> rfl

end Field

/-- What a field can hold. -/
inductive Setting where
  | texts (values : List String)
  | count (value : Nat)
  | policy (value : OverflowPolicy)
  | flag (value : Bool)
  deriving DecidableEq, Repr

/-- What the configuration holds in a field. -/
def setting? (c : Config) : Field → Option Setting
  | .extensions => c.extensions.map .texts
  | .ignore => c.ignore.map .texts
  | .maxDepth => c.maxDepth.map .count
  | .overflow => c.overflow.map .policy
  | .commentsInTemplateText => c.commentsInTemplateText.map .flag
  | .stopOnFirstError => c.stopOnFirstError.map .flag
  | .parallel => c.parallel.map .flag

end TagCheck.Config
