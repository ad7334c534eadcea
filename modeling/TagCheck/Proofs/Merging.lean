/-
# Merging in parts

Files can be checked in parts, and the verdicts on the parts put together later. `Batches`
says what the merged verdict reports; here it is said that the parts do not matter. Merging is
associative, as the first of three failing verdicts is the first of the last two if the first
does not fail (`Verdict.merge_assoc`), and to merge nothing changes nothing
(`Verdict.merge_nothing`). From these two alone a verdict merged with many, one by one, is that
verdict merged with all of them together (`Verdict.foldl_merge`), and a batch can be cut
anywhere.

Nothing is no identity on the other side: a valid verdict gives up the name of its file when it
is merged into it (`Verdict.nothing_merge`). The summary of a batch starts from nothing and so
never has such a name, which is why the law for batches does not mention it.
-/

import TagCheck.Check.Batch

namespace TagCheck

namespace Verdict

variable (a b c : Verdict)

/-! ## The parts of a merged verdict -/

theorem ext_of_parts {a b : Verdict} (defect : a.defect = b.defect) (file : a.file = b.file)
    (tags : a.tagsChecked = b.tagsChecked) (files : a.filesChecked = b.filesChecked) : a = b := by
  cases a
  cases b
  simp_all

theorem defect_merge : (a.merge b).defect = a.defect.or b.defect := by
  cases failing : a.defect <;> cases failing' : b.defect <;> simp [merge, failing, failing']

theorem file_merge :
    (a.merge b).file = if a.isValid && !b.isValid then b.file else a.file := by
  simp only [merge, isValid, Option.not_isNone]

theorem isValid_merge : (a.merge b).isValid = (a.isValid && b.isValid) := by
  rw [isValid, isValid, isValid, defect_merge]
  cases a.defect <;> rfl

/-! ## Laws -/

/-- It does not matter which of three verdicts are merged first. -/
theorem merge_assoc : (a.merge b).merge c = a.merge (b.merge c) := by
  apply ext_of_parts
  · rw [defect_merge, defect_merge, defect_merge, defect_merge, Option.or_assoc]
  · rw [file_merge, file_merge, file_merge, file_merge, isValid_merge, isValid_merge]
    cases a.isValid <;> cases b.isValid <;> cases c.isValid <;> rfl
  · exact Nat.add_assoc ..
  · exact Nat.add_assoc ..

theorem merge_nothing : a.merge nothing = a := by
  apply ext_of_parts
  · rw [defect_merge]
    exact Option.or_none
  · rw [file_merge]
    exact if_neg (by simp [isValid, nothing])
  · exact Nat.add_zero _
  · exact Nat.add_zero _

/-- Merged into nothing, a valid verdict loses its file and nothing else; a failing one stays
as it is. -/
theorem nothing_merge :
    nothing.merge a = { a with file := if a.isValid then none else a.file } := by
  apply ext_of_parts
  · rw [defect_merge]
    exact Option.none_or
  · rw [file_merge]
    cases a.isValid <;> rfl
  · exact Nat.zero_add _
  · exact Nat.zero_add _

theorem nothing_merge_eq_iff : nothing.merge a = a ↔ (a.isValid = true → a.file = none) := by
  rw [nothing_merge]
  constructor
  · intro same valid
    have file := congrArg Verdict.file same
    rw [valid] at file
    exact file.symm
  · intro unnamed
    apply ext_of_parts
    · rfl
    · cases valid : a.isValid with
      | true => exact (unnamed valid).symm
      | false => rfl
    · rfl
    · rfl

/-! ## Many verdicts -/

/-- Merging many verdicts one by one is merging all of them at once. -/
theorem foldl_merge (verdicts : List Verdict) :
    verdicts.foldl merge a = a.merge (mergeAll verdicts) := by
  induction verdicts generalizing a with
  | nil => exact (merge_nothing a).symm
  | cons first rest ih =>
      have begun : mergeAll (first :: rest) = (nothing.merge first).merge (mergeAll rest) :=
        ih (nothing.merge first)
      rw [List.foldl_cons, ih, begun, ← merge_assoc, ← merge_assoc, merge_nothing]

theorem mergeAll_append (first second : List Verdict) :
    mergeAll (first ++ second) = (mergeAll first).merge (mergeAll second) := by
  rw [mergeAll, List.foldl_append, foldl_merge]
  rfl

/-- What has been merged from nothing has no name left to lose. -/
theorem nothing_merge_mergeAll (verdicts : List Verdict) :
    nothing.merge (mergeAll verdicts) = mergeAll verdicts :=
  (foldl_merge nothing verdicts).symm

theorem mergeAll_flatten (parts : List (List Verdict)) :
    mergeAll parts.flatten = mergeAll (parts.map mergeAll) := by
  induction parts with
  | nil => rfl
  | cons first rest ih =>
      have begun : mergeAll ((first :: rest).map mergeAll) =
          (nothing.merge (mergeAll first)).merge (mergeAll (rest.map mergeAll)) :=
        foldl_merge (nothing.merge (mergeAll first)) (rest.map mergeAll)
      rw [List.flatten_cons, mergeAll_append, ih, begun, nothing_merge_mergeAll]

/-- Both counts of a verdict are below a bound. -/
def CountsBelow (bound : Nat) (v : Verdict) : Prop :=
  v.tagsChecked < bound ∧ v.filesChecked < bound

instance (bound : Nat) (v : Verdict) : Decidable (v.CountsBelow bound) :=
  inferInstanceAs (Decidable (_ ∧ _))

variable {a b} in
/-- The parts count no more than the whole. -/
theorem CountsBelow.parts {bound : Nat} (whole : (a.merge b).CountsBelow bound) :
    a.CountsBelow bound ∧ b.CountsBelow bound := by
  obtain ⟨tags, files⟩ := whole
  simp only [merge] at tags files
  exact ⟨⟨by omega, by omega⟩, ⟨by omega, by omega⟩⟩

end Verdict

open Verdict in
/-- A batch can be cut anywhere, and its parts summed up in any grouping. Of three verdicts it
does not matter which two are merged first, and in neither grouping a count grows beyond those
of the whole. To merge nothing changes nothing. The summary of a batch is the merged summaries
of its parts, with the defect, the file and the counts; the parts may be two, or any number.
None of this needs that nothing merged with a verdict is that verdict, which fails where a valid
verdict has a file: the file is dropped. -/
theorem batch_splits_anywhere (a b c : Verdict) (first second : List FileVerdict)
    (parts : List (List FileVerdict)) :
    (a.merge b).merge c = a.merge (b.merge c) ∧
      (∀ bound, (a.merge (b.merge c)).CountsBelow bound →
        (a.merge b).CountsBelow bound ∧ (b.merge c).CountsBelow bound) ∧
      a.merge nothing = a ∧
      (nothing.merge a = a ↔ (a.isValid = true → a.file = none)) ∧
      (a.isValid = true → (nothing.merge a).file = none) ∧
      Batch.summary ⟨first ++ second⟩ = (Batch.summary ⟨first⟩).merge (Batch.summary ⟨second⟩) ∧
      Batch.summary ⟨parts.flatten⟩ = mergeAll (parts.map fun part => Batch.summary ⟨part⟩) := by
  refine ⟨merge_assoc a b c, ?_, merge_nothing a, nothing_merge_eq_iff a, ?_, ?_, ?_⟩
  · intro bound fits
    refine ⟨?_, fits.parts.2⟩
    rw [← merge_assoc] at fits
    exact fits.parts.1
  · intro valid
    rw [nothing_merge]
    exact if_pos valid
  · simp only [Batch.summary, List.map_append, mergeAll_append]
  · simp only [Batch.summary, List.map_flatten, mergeAll_flatten, List.map_map]
    rfl

open Verdict in
theorem batch_splits_anywhere_named :
    let valid : Verdict := ⟨none, some "a.tsx", 3, 1⟩
    let unnamed : Verdict := ⟨some (.tooDeep 1 Position.start), none, 2, 1⟩
    let named : Verdict := ⟨some (.unclosed "b" Position.start 0), some "c.tsx", 0, 1⟩
    let first : List FileVerdict := [⟨"a.tsx", valid⟩]
    let second : List FileVerdict := [⟨"b.tsx", unnamed⟩, ⟨"c.tsx", named⟩]
    (valid.merge unnamed).merge named = valid.merge (unnamed.merge named) ∧
      (valid.merge (unnamed.merge named)).CountsBelow 0x100000000 ∧
      (valid.merge unnamed).CountsBelow 0x100000000 ∧
      nothing.merge valid ≠ valid ∧
      Batch.summary ⟨first ++ second⟩ = (Batch.summary ⟨first⟩).merge (Batch.summary ⟨second⟩) ∧
      (Batch.summary ⟨first ++ second⟩).file = none ∧
      (Batch.summary ⟨first ++ second⟩).tagsChecked = 5 := by
  intro valid unnamed named first second
  have fits : (valid.merge (unnamed.merge named)).CountsBelow 0x100000000 := by decide
  obtain ⟨regrouped, counts, _, identity, _, split, _⟩ :=
    batch_splits_anywhere valid unnamed named first second []
  refine ⟨regrouped, fits, (counts _ fits).1, ?_, split, rfl, rfl⟩
  intro same
  cases identity.mp same rfl

end TagCheck
