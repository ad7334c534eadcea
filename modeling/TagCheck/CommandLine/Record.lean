/-
# Records of a run

What a run tells about each path it came by, and what it keeps of that.  The records,
the verdict on all files so far and the number of errors are kept one beside the
other: none of them is worked out from another in the end.
-/

import TagCheck.Check.Discovery
import TagCheck.Check.Verdict

namespace TagCheck.CommandLine

/-- What became of a path. -/
inductive Finding where
  /-- It was not checked, because of its extension. -/
  | skipped
  | ignored
  | checked (verdict : Verdict)
  deriving DecidableEq, Repr

/-- A path and what became of it. -/
structure Record where
  path : String
  finding : Finding
  deriving DecidableEq, Repr

/-- What a run keeps while it goes through its paths. -/
structure Tally where
  /-- The records made so far, latest first. -/
  made : List Record := []
  /-- The verdict on everything checked so far. -/
  summary : Verdict := .nothing
  /-- How many of the checked paths had a defect. -/
  errors : Nat := 0
  deriving DecidableEq, Repr

namespace Tally

/-- The records, in the order in which they were made. -/
def records (t : Tally) : List Record := t.made.reverse

/-- Keep a record of a path that is not checked. -/
def pass (t : Tally) (record : Record) : Tally := { t with made := record :: t.made }

/-- Keep the verdict on a path that has been checked. -/
def check (t : Tally) (path : String) (verdict : Verdict) : Tally where
  made := ⟨path, .checked verdict⟩ :: t.made
  summary := t.summary.merge verdict
  errors := if verdict.isValid then t.errors else t.errors + 1

/-- The exit status that says how a run went. -/
def exitStatus (t : Tally) : Nat := if t.errors > 0 then 1 else 0

end Tally

end TagCheck.CommandLine
