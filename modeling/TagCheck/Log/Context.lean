/-
# Contexts of events

What happens while a batch is checked happens in the context of the batch.  A context
has a name, belongs to a part of the program, and has one field, the number of files.
-/

import TagCheck.Log.Event

namespace TagCheck.Log

/-- The batch in which something happens. -/
structure Batch where
  /-- How many files it has. -/
  files : Nat
  deriving DecidableEq, Repr

namespace Batch

/-- The name of the context. -/
def name : String := "validate_batch"

/-- The part of the program that it belongs to. -/
def target : String := "tsxcheck_validator"

def level : Level := .info

/-- The name of its field. -/
def filesField : String := "files"

end Batch

end TagCheck.Log
