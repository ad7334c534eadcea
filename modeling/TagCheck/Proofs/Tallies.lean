/-
# Keeping count

While a run goes through its paths it keeps three things: the records, the verdict on all
files so far, and the number of errors. Each has its own rule for a path that is passed over
and for one that has been checked, and nothing but these rules makes them agree. That they do
is an invariant: the summary and the errors are those of the records (`Tally.Settled`), and
they say what the records say one by one (`Tally.Coherent`). The first is kept whatever
verdicts come in, the second if each of them is about one file and bears its name.
-/

import Mathlib
import TagCheck.CommandLine.Record
import TagCheck.Proofs.Batches

namespace TagCheck.CommandLine

namespace Record

/-- The verdict on the path, if it was checked. -/
def verdict? (r : Record) : Option Verdict :=
  match r.finding with
  | .checked verdict => some verdict
  | _ => none

/-- Whether the path was checked and has a defect. -/
def isFailure (r : Record) : Bool := r.verdict?.any (!·.isValid)

/-- The defect that is on record. -/
def defect? (r : Record) : Option Defect := r.verdict?.bind (·.defect)

theorem isFailure_eq (r : Record) : r.isFailure = r.defect?.isSome := by
  unfold isFailure defect?
  cases r.verdict? with
  | none => rfl
  | some verdict =>
      simp only [Option.any_some, Option.bind_some, Verdict.isValid]
      cases verdict.defect <;> rfl

theorem isFailure_of_unchecked {r : Record} (unchecked : r.verdict? = none) :
    r.isFailure = false := by
  rw [isFailure, unchecked]
  rfl

end Record

/-- The verdict on everything checked. -/
def summary (records : List Record) : Verdict := Verdict.mergeAll (records.filterMap (·.verdict?))

/-- How many paths have a defect. -/
def failureCount (records : List Record) : Nat := records.countP (·.isFailure)

/-- The exit status that says how a run with these records went. -/
def exitStatus (records : List Record) : Nat := if failureCount records > 0 then 1 else 0

theorem summary_concat (before : List Record) (r : Record) :
    summary (before ++ [r]) = r.verdict?.elim (summary before) (summary before).merge := by
  rw [summary, Verdict.mergeAll, List.filterMap_append, List.foldl_append]
  cases found : r.verdict? with
  | none => rw [List.filterMap_cons_none found]; rfl
  | some verdict => rw [List.filterMap_cons_some found]; rfl

theorem failureCount_concat (before : List Record) (r : Record) :
    failureCount (before ++ [r]) =
      if r.isFailure then failureCount before + 1 else failureCount before := by
  rw [failureCount, List.countP_append, List.countP_singleton, failureCount]
  split <;> rfl

namespace Tally

variable {t : Tally}

@[simp] theorem records_empty : ({} : Tally).records = [] := rfl

@[simp] theorem records_pass (r : Record) : (t.pass r).records = t.records ++ [r] :=
  List.reverse_cons

@[simp] theorem records_check (path : String) (verdict : Verdict) :
    (t.check path verdict).records = t.records ++ [⟨path, .checked verdict⟩] :=
  List.reverse_cons

@[simp] theorem summary_pass (r : Record) : (t.pass r).summary = t.summary := rfl

@[simp] theorem errors_pass (r : Record) : (t.pass r).errors = t.errors := rfl

@[simp] theorem summary_check (path : String) (verdict : Verdict) :
    (t.check path verdict).summary = t.summary.merge verdict := rfl

@[simp] theorem errors_check (path : String) (verdict : Verdict) :
    (t.check path verdict).errors = if verdict.isValid then t.errors else t.errors + 1 := rfl

/-! ## The totals are those of the records -/

/-- The summary and the number of errors are those of the records. -/
structure Settled (t : Tally) : Prop where
  summary : t.summary = CommandLine.summary t.records
  errors : t.errors = failureCount t.records

theorem Settled.empty : ({} : Tally).Settled := ⟨rfl, rfl⟩

theorem Settled.pass (settled : t.Settled) {r : Record} (unchecked : r.verdict? = none) :
    (t.pass r).Settled where
  summary := by
    rw [records_pass, summary_concat, unchecked]
    exact settled.summary
  errors := by
    rw [records_pass, failureCount_concat, Record.isFailure_of_unchecked unchecked]
    exact settled.errors

theorem Settled.check (settled : t.Settled) (path : String) (verdict : Verdict) :
    (t.check path verdict).Settled where
  summary := by
    rw [records_check, summary_concat]
    exact congrArg (·.merge verdict) settled.summary
  errors := by
    have failing : Record.isFailure ⟨path, .checked verdict⟩ = !verdict.isValid := rfl
    rw [records_check, failureCount_concat, failing, ← settled.errors]
    cases valid : verdict.isValid <;> simp [valid]

/-! ## The totals say what the records say -/

/-- Files, tags and errors are counted in the totals as they are in the records, and the defect
is that of the first failure, with its file. -/
structure Coherent (t : Tally) : Prop where
  filesChecked : t.summary.filesChecked = t.records.countP (·.verdict?.isSome)
  tagsChecked : t.summary.tagsChecked =
    ((t.records.filterMap (·.verdict?)).map (·.tagsChecked)).sum
  errors : t.errors = t.records.countP (·.isFailure)
  defect : t.summary.defect = (t.records.find? (·.isFailure)).bind (·.defect?)
  file : t.summary.file = (t.records.find? (·.isFailure)).map (·.path)

theorem Coherent.empty : ({} : Tally).Coherent := ⟨rfl, rfl, rfl, rfl, rfl⟩

/-- A coherent tally without a defect has no failure among its records. -/
theorem Coherent.no_failure (coherent : t.Coherent) (valid : t.summary.isValid = true) :
    t.records.find? (·.isFailure) = none := by
  cases found : t.records.find? (·.isFailure) with
  | none => rfl
  | some r =>
      have fails : r.isFailure = true := List.find?_some found
      have defect := coherent.defect
      rw [found, Option.bind_some] at defect
      rw [Record.isFailure_eq, ← defect] at fails
      rw [Verdict.isValid, Option.isNone_iff_eq_none] at valid
      rw [valid] at fails
      cases fails

/-- A record behind a coherent tally is the first failure only if the tally has none. -/
theorem Coherent.first_concat (coherent : t.Coherent) (r : Record) :
    (t.records ++ [r]).find? (·.isFailure) =
      if t.summary.isValid then (if r.isFailure then some r else none)
      else t.records.find? (·.isFailure) := by
  rw [List.find?_append, List.find?_singleton]
  cases valid : t.summary.isValid with
  | true =>
      rw [coherent.no_failure valid]
      rfl
  | false =>
      cases found : t.records.find? (·.isFailure) with
      | some first => rfl
      | none =>
          have defect := coherent.defect
          rw [found, Option.bind_none] at defect
          rw [Verdict.isValid, defect] at valid
          cases valid

/-- A path that was not checked changes none of the totals. -/
theorem Coherent.pass (coherent : t.Coherent) {r : Record} (unchecked : r.verdict? = none) :
    (t.pass r).Coherent := by
  have fine := Record.isFailure_of_unchecked unchecked
  obtain ⟨filesChecked, tagsChecked, errors, defect, file⟩ := coherent
  refine ⟨?_, ?_, ?_, ?_, ?_⟩
  · simp [filesChecked, unchecked]
  · simp [tagsChecked, unchecked]
  · simp [errors, fine]
  · simp [defect, fine]
  · simp [file, fine]

/-- A verdict on one file counts one file more, with its tags. Its defect is the first if there
was none before. -/
theorem Coherent.check (coherent : t.Coherent) {path : String} {verdict : Verdict}
    (one : verdict.filesChecked = 1) (named : verdict.file = some path) :
    (t.check path verdict).Coherent := by
  let r : Record := ⟨path, .checked verdict⟩
  have checked : r.verdict? = some verdict := rfl
  have failing : r.isFailure = !verdict.isValid := rfl
  have found : r.defect? = verdict.defect := rfl
  have records : (t.check path verdict).records = t.records ++ [r] := records_check path verdict
  constructor <;> rw [records]
  · simp [Verdict.merge, coherent.filesChecked, checked, one]
  · simp [Verdict.merge, coherent.tagsChecked, checked]
  · cases valid : verdict.isValid <;> simp [coherent.errors, failing, valid]
  · rw [coherent.first_concat r, summary_check]
    cases clean : t.summary.isValid with
    | true =>
        rw [(Verdict.merge_of_valid verdict clean).1, ← found, if_pos rfl]
        cases fails : r.isFailure with
        | true => rfl
        | false =>
            rw [Record.isFailure_eq, Option.isSome_eq_false_iff, Option.isNone_iff_eq_none] at fails
            rw [fails]
            rfl
    | false =>
        rw [(Verdict.merge_of_failing verdict clean).1, coherent.defect]
        rfl
  · rw [coherent.first_concat r, summary_check]
    cases clean : t.summary.isValid with
    | true =>
        rw [(Verdict.merge_of_valid verdict clean).2, coherent.file, coherent.no_failure clean,
          failing, named]
        cases verdict.isValid <;> rfl
    | false =>
        rw [(Verdict.merge_of_failing verdict clean).2, coherent.file]
        rfl

end Tally

end TagCheck.CommandLine
