/-
# Checking files

One file, files in order, or a batch.  Every check hands back what it found
together with the events on the way.  A file that cannot be read counts as
checked, with that for its defect.

A batch keeps the verdicts apart, file by file in the order given; merged they are
the verdict on the files in order.
-/

import TagCheck.Check.Source
import TagCheck.Check.Verdict
import TagCheck.Log.Logged
import TagCheck.Markup.Nesting

namespace TagCheck

/-- A check with fixed options of files from a fixed source. -/
structure Checker where
  source : Source
  options : ScanOptions := {}

namespace Checker

/-- Check a text that is in no file. -/
def text (options : ScanOptions) (contents : Text) : Logged Verdict :=
  let outcome := scan options contents
  ⟨{ defect := outcome.defect, tagsChecked := outcome.tagsChecked }, outcome.events⟩

/-- What is found in a file apart from its name, which is that of `path`. -/
def contents (c : Checker) (path : String) : Logged Verdict :=
  match c.source path with
  | .ok bytes => text c.options bytes
  | .error (.noRoom bytes) => ⟨Verdict.ofDefect (.outOfMemory path), [.noRoom path bytes]⟩
  | .error failure =>
      ⟨Verdict.ofDefect (.unreadable path failure.message),
        [.fileUnreadable path failure.message]⟩

/-- Check one file. -/
def file (c : Checker) (path : String) : Logged Verdict :=
  let found := c.contents path
  let verdict := { found.value with filesChecked := 1 }.withFile path
  ⟨verdict, found.events ++ [.fileRead path verdict.tagsChecked verdict.isValid]⟩

/-- Check files in order, after those that `before` is the verdict on.  With `stop`
the first file with a defect is the last one read. -/
def filesAfter (c : Checker) (stop : Bool) (before : Verdict) : List String → Logged Verdict
  | [] => ⟨before, []⟩
  | path :: rest =>
      let checked := c.file path
      let sofar := before.merge checked.value
      if stop && !checked.value.isValid then
        ⟨sofar, checked.events ++ [.stoppedEarly sofar.filesChecked]⟩
      else
        let later := c.filesAfter stop sofar rest
        ⟨later.value, checked.events ++ later.events⟩

/-- Check files in order. -/
def files (c : Checker) (stop : Bool) (paths : List String) : Logged Verdict :=
  c.filesAfter stop Verdict.nothing paths

end Checker

/-- One file of a batch. -/
structure FileVerdict where
  path : String
  verdict : Verdict
  deriving DecidableEq, Repr

/-- The verdicts on the files of a batch, in the order given. -/
structure Batch where
  files : List FileVerdict := []
  deriving DecidableEq, Repr, Inhabited

namespace Batch

/-- The verdict on the whole batch. -/
def summary (b : Batch) : Verdict := Verdict.mergeAll (b.files.map (·.verdict))

/-- The files with a defect. -/
def failures (b : Batch) : List FileVerdict := b.files.filter (!·.verdict.isValid)

def isValid (b : Batch) : Bool := b.files.all (·.verdict.isValid)

end Batch

/-- Check files as a batch. -/
def Checker.batch (c : Checker) (paths : List String) : Logged Batch :=
  let checked := paths.map fun path => (path, c.file path)
  let batch : Batch := ⟨checked.map fun (path, found) => ⟨path, found.value⟩⟩
  ⟨batch, checked.flatMap (fun (_, found) => found.events) ++
    [.batchFinished batch.files.length batch.failures.length]⟩

end TagCheck
