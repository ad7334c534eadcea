/-
# Verdicts

The verdict on a text, on a file, or on many files together.  A verdict on many
files counts all of them but holds only the earliest defect, with the file it was
found in.
-/

import TagCheck.Markup.Defect

namespace TagCheck

/-- The result of a check. -/
structure Verdict where
  /-- The earliest defect; none if everything is in order. -/
  defect : Option Defect := none
  /-- The file the verdict is about or, for many files, the one with the defect. -/
  file : Option String := none
  tagsChecked : Nat := 0
  /-- A text that came from no file counts as none. -/
  filesChecked : Nat := 0
  deriving DecidableEq, Repr

namespace Verdict

/-- The verdict on nothing at all. -/
def nothing : Verdict := {}

instance : Inhabited Verdict := ⟨nothing⟩

def ofDefect (defect : Defect) : Verdict := { defect := some defect }

def isValid (v : Verdict) : Bool := v.defect.isNone

def kind (v : Verdict) : Option DefectKind := v.defect.map (·.kind)

def position (v : Verdict) : Option Position := v.defect.bind (·.position)

/-- What is wrong, with the file in front where it is known. -/
def message (v : Verdict) : Option String :=
  v.defect.map fun defect =>
    match v.file with
    | some file => file ++ ": " ++ defect.message
    | none => defect.message

/-- The same verdict, about this file. -/
def withFile (v : Verdict) (file : String) : Verdict := { v with file := some file }

/-- The verdict on two stretches of files, the second after the first. -/
def merge (first second : Verdict) : Verdict :=
  let later := first.defect.isNone && second.defect.isSome
  { defect := if later then second.defect else first.defect
    file := if later then second.file else first.file
    tagsChecked := first.tagsChecked + second.tagsChecked
    filesChecked := first.filesChecked + second.filesChecked }

/-- The verdict on all files of a list together. -/
def mergeAll (verdicts : List Verdict) : Verdict := verdicts.foldl merge nothing

end Verdict

end TagCheck
