/-
# Many files at once

There are three ways to check a list of files: as a batch, one by one to the end, and one
by one up to the first that fails. They differ in when the verdicts are put together, and
only the order of the verdicts matters there: the first failing one gives the defect and
the file, whatever comes behind it (`Verdict.foldl_merge_of_failing`).

Workers may check the files of a batch in any order. Each verdict has a slot of its own,
so the slots are the same in the end (`Checker.gather_eq`). Stopping early is checking a
front of the list, the one through the first failure (`Checker.files_stop`).
-/

import Mathlib.Data.List.Perm.Basic
import TagCheck.Check.Batch

namespace TagCheck

/-- The front of a list through its first element of the kind sought; the whole list if
there is none. -/
def throughFirst {α : Type} (sought : α → Bool) (list : List α) : List α :=
  list.take (list.findIdx sought + 1)

theorem throughFirst_cons {α : Type} (sought : α → Bool) (first : α) (rest : List α) :
    throughFirst sought (first :: rest) =
      first :: if sought first then [] else throughFirst sought rest := by
  rw [throughFirst, List.take_succ_cons, List.findIdx_cons]
  cases sought first <;> rfl

/-- If nothing counts as found, the front is the whole list. -/
theorem throughFirst_never {α : Type} (list : List α) :
    throughFirst (fun _ => false) list = list := by
  induction list with
  | nil => rfl
  | cons first rest ih => rw [throughFirst_cons, if_neg Bool.false_ne_true, ih]

/-! ## Merged verdicts -/

namespace Verdict

variable {first : Verdict}

theorem merge_of_failing (second : Verdict) (fails : first.isValid = false) :
    (first.merge second).defect = first.defect ∧ (first.merge second).file = first.file := by
  have earlier : first.defect.isNone = false := fails
  simp only [merge, earlier, Bool.false_and]
  exact ⟨rfl, rfl⟩

theorem merge_of_valid (second : Verdict) (valid : first.isValid = true) :
    (first.merge second).defect = second.defect ∧
      (first.merge second).file = if second.isValid then first.file else second.file := by
  have none : first.defect.isNone = true := valid
  cases found : second.defect with
  | none =>
      have clean : first.defect = .none := Option.isNone_iff_eq_none.mp none
      simp [merge, isValid, found, clean]
  | some defect => simp [merge, isValid, found, none]

/-- Behind a failing verdict nothing changes the defect or the file. -/
theorem foldl_merge_of_failing (verdicts : List Verdict) (fails : first.isValid = false) :
    (verdicts.foldl merge first).defect = first.defect ∧
      (verdicts.foldl merge first).file = first.file := by
  induction verdicts generalizing first with
  | nil => exact ⟨rfl, rfl⟩
  | cons second rest ih =>
      obtain ⟨defect, file⟩ := merge_of_failing second fails
      have still : (first.merge second).isValid = false := by rw [isValid, defect]; exact fails
      rw [List.foldl_cons, ← defect, ← file]
      exact ih still

/-- Behind a valid verdict the first failing one gives the defect and the file. -/
theorem foldl_merge_of_valid (verdicts : List Verdict) (valid : first.isValid = true) :
    (verdicts.foldl merge first).defect = (verdicts.find? (!·.isValid)).bind (·.defect) ∧
      (verdicts.foldl merge first).file =
        ((verdicts.find? (!·.isValid)).map (·.file)).getD first.file := by
  induction verdicts generalizing first with
  | nil => exact ⟨Option.isNone_iff_eq_none.mp valid, rfl⟩
  | cons second rest ih =>
      obtain ⟨defect, file⟩ := merge_of_valid second valid
      rw [List.foldl_cons]
      cases next : second.isValid with
      | true =>
          have still : (first.merge second).isValid = true := by rw [isValid, defect]; exact next
          rw [next, if_pos rfl] at file
          rw [List.find?_cons_of_neg (by simp [next]), ← file]
          exact ih still
      | false =>
          have fails : (first.merge second).isValid = false := by rw [isValid, defect]; exact next
          rw [next, if_neg Bool.false_ne_true] at file
          obtain ⟨defect', file'⟩ := foldl_merge_of_failing rest fails
          rw [List.find?_cons_of_pos (by simp [next]), defect', file', defect, file]
          exact ⟨rfl, rfl⟩

/-- All verdicts together report what the first failing one reports. -/
theorem mergeAll_eq (verdicts : List Verdict) :
    (mergeAll verdicts).defect = (verdicts.find? (!·.isValid)).bind (·.defect) ∧
      (mergeAll verdicts).file = (verdicts.find? (!·.isValid)).bind (·.file) := by
  have valid : nothing.isValid = true := rfl
  obtain ⟨defect, file⟩ := foldl_merge_of_valid verdicts valid
  refine ⟨defect, file.trans ?_⟩
  cases verdicts.find? (!·.isValid) <;> rfl

/-- All verdicts together are valid if each of them is. -/
theorem mergeAll_isValid (verdicts : List Verdict) :
    (mergeAll verdicts).isValid = verdicts.all (·.isValid) := by
  rw [isValid, (mergeAll_eq verdicts).1]
  cases failing : verdicts.find? (!·.isValid) with
  | none =>
      rw [List.find?_eq_none] at failing
      exact (List.all_eq_true.mpr fun v among => by simpa using failing v among).symm
  | some v =>
      have fails : v.isValid = false := by simpa using List.find?_some failing
      have among : v ∈ verdicts := List.mem_of_find?_eq_some failing
      have notAll : verdicts.all (·.isValid) = false :=
        List.all_eq_false.mpr ⟨v, among, by rw [fails]; exact Bool.false_ne_true⟩
      rw [notAll, Option.bind_some]
      exact fails

end Verdict

namespace Batch

theorem isValid_iff_failures {b : Batch} : b.isValid = true ↔ b.failures = [] := by
  rw [isValid, failures, List.all_eq_true, List.filter_eq_nil_iff]
  simp only [Bool.not_eq_true', Bool.not_eq_false]

theorem summary_isValid (b : Batch) : b.summary.isValid = b.isValid := by
  rw [summary, Verdict.mergeAll_isValid, List.all_map, isValid]
  rfl

end Batch

/-! ## One by one -/

namespace Checker

variable (c : Checker)

/-- Whether the check of the file at a path finds a defect. -/
def fails (path : String) : Bool := !(c.file path).value.isValid

/-- The entry of the file at a path in the report on a batch. -/
def fileVerdict (path : String) : FileVerdict := ⟨path, (c.file path).value⟩

theorem batch_files (paths : List String) :
    (c.batch paths).value.files = paths.map c.fileVerdict := by
  simp only [batch, List.map_map]
  rfl

theorem batch_summary (paths : List String) :
    (c.batch paths).value.summary =
      Verdict.mergeAll (paths.map fun path => (c.file path).value) := by
  rw [Batch.summary, batch_files, List.map_map]
  rfl

/-- Checking files one by one merges their verdicts in order, through the first that ends the
check. -/
theorem filesAfter_eq (stop : Bool) (before : Verdict) (paths : List String) :
    (c.filesAfter stop before paths).value =
      ((throughFirst (fun path => stop && c.fails path) paths).map
        fun path => (c.file path).value).foldl Verdict.merge before := by
  induction paths generalizing before with
  | nil => rfl
  | cons path rest ih =>
      rw [throughFirst_cons]
      cases ends : stop && c.fails path with
      | true =>
          have stops : (stop && !(c.file path).value.isValid) = true := ends
          simp only [filesAfter, stops]
          rfl
      | false =>
          have onward : (stop && !(c.file path).value.isValid) = false := ends
          simp only [filesAfter, onward]
          exact ih _

theorem files_eq (stop : Bool) (paths : List String) :
    (c.files stop paths).value =
      Verdict.mergeAll ((throughFirst (fun path => stop && c.fails path) paths).map
        fun path => (c.file path).value) :=
  c.filesAfter_eq stop Verdict.nothing paths

/-- Without a reason to stop every file is checked. -/
theorem files_whole (paths : List String) :
    (c.files false paths).value =
      Verdict.mergeAll (paths.map fun path => (c.file path).value) := by
  rw [files_eq]
  exact congrArg _ (congrArg _ (throughFirst_never paths))

/-- Stopping at the first failing file is checking no further than to that file. -/
theorem files_stop (paths : List String) :
    (c.files true paths).value = (c.files false (throughFirst c.fails paths)).value := by
  rw [files_whole, files_eq]
  rfl

/-! ## In any order -/

/-- The slots of a batch when workers have checked the files at the places of `order`, one
after the other. A worker puts its verdict into the slot of the file's own place. -/
def gather (paths : List String) (order : List Nat) : List (Option FileVerdict) :=
  order.foldl (fun slots place => slots.set place (paths[place]?.map c.fileVerdict))
    (List.replicate paths.length none)

end Checker

section Slots

variable {α : Type} (content : Nat → α) (order : List Nat) (slots : List α)

theorem length_foldl_set :
    (order.foldl (fun slots place => slots.set place (content place)) slots).length =
      slots.length := by
  induction order generalizing slots with
  | nil => rfl
  | cons next rest ih => rw [List.foldl_cons, ih, List.length_set]

/-- A slot holds what belongs into it once its place has come up. -/
theorem getElem?_foldl_set {place : Nat} (inside : place < slots.length) :
    (order.foldl (fun slots place => slots.set place (content place)) slots)[place]? =
      if place ∈ order then some (content place) else slots[place]? := by
  induction order generalizing slots with
  | nil => rfl
  | cons next rest ih =>
      rw [List.foldl_cons, ih _ (by rwa [List.length_set])]
      by_cases later : place ∈ rest
      · rw [if_pos later, if_pos (List.mem_cons_of_mem next later)]
      · rw [if_neg later]
        by_cases now : next = place
        · rw [now, List.getElem?_set_self inside, if_pos List.mem_cons_self]
        · rw [List.getElem?_set_ne now, if_neg]
          rintro (_ | ⟨_, among⟩)
          · exact now rfl
          · exact later among

end Slots

/-- In whatever order the files of a batch are checked, the report lists them as they were
given. -/
theorem Checker.gather_eq (c : Checker) {paths : List String} {order : List Nat}
    (everyPlace : order.Perm (List.range paths.length)) :
    c.gather paths order = (c.batch paths).value.files.map some := by
  rw [batch_files, gather]
  apply List.ext_getElem?
  intro place
  by_cases inside : place < paths.length
  · have slot : place < (List.replicate paths.length (none : Option FileVerdict)).length := by
      rwa [List.length_replicate]
    have comesUp : place ∈ order := everyPlace.mem_iff.mpr (List.mem_range.mpr inside)
    rw [getElem?_foldl_set _ _ _ slot, if_pos comesUp, List.map_map, List.getElem?_map,
      List.getElem?_eq_getElem inside]
    rfl
  · rw [List.getElem?_eq_none, List.getElem?_eq_none]
    · rw [List.length_map, List.length_map]
      exact Nat.le_of_not_lt inside
    · rw [length_foldl_set, List.length_replicate]
      exact Nat.le_of_not_lt inside

/-- A batch is the same as its files one by one. Whatever the order in which its files are
checked, its report has one entry for each path, in the order of the paths, with what the
check of that file alone finds. Put together, the entries are the verdict on the files one by
one; it is valid, and no entry fails, if and only if the batch is valid; and it
reports the defect and the name of the first file that fails. Stopping early gives the
verdict on the files through the first that fails, so those behind it have no part in it. -/
theorem batch_agrees_with_files (c : Checker) (paths : List String) {order : List Nat}
    (everyPlace : order.Perm (List.range paths.length)) :
    let batch := (c.batch paths).value
    c.gather paths order = batch.files.map some ∧
      batch.files = paths.map (fun path => ⟨path, (c.file path).value⟩) ∧
      batch.summary = (c.files false paths).value ∧
      (batch.isValid = true ↔ batch.failures = []) ∧
      (batch.isValid = true ↔ batch.summary.isValid = true) ∧
      batch.summary.defect = (paths.find? c.fails).bind (fun path => (c.file path).value.defect) ∧
      batch.summary.file = paths.find? c.fails ∧
      (c.files true paths).value = (c.files false (throughFirst c.fails paths)).value := by
  intro batch
  have failing : ((paths.map fun path => (c.file path).value).find? (!·.isValid)) =
      (paths.find? c.fails).map fun path => (c.file path).value := List.find?_map
  obtain ⟨defect, file⟩ := Verdict.mergeAll_eq (paths.map fun path => (c.file path).value)
  rw [← c.batch_summary, failing, Option.bind_map] at defect file
  refine ⟨c.gather_eq everyPlace, c.batch_files paths, ?_, Batch.isValid_iff_failures, ?_, defect,
    file.trans (Option.bind_fun_some _), c.files_stop paths⟩
  · rw [c.batch_summary, c.files_whole]
  · rw [Batch.summary_isValid]

theorem batch_agrees_with_files_missing :
    let source : Source := fun path =>
      if path = "a" then .ok "<br>".toUTF8.toList else .error .missing
    let c : Checker := ⟨source, {}⟩
    let paths := ["a", "gone", "a", "lost"]
    [2, 3, 0, 1].Perm (List.range paths.length) ∧
      c.gather paths [2, 3, 0, 1] = (c.batch paths).value.files.map some ∧
      (c.batch paths).value.summary.file = some "gone" ∧
      (c.batch paths).value.summary.defect = some (.unreadable "gone" "no such source") ∧
      (c.files true paths).value = (c.files false ["a", "gone"]).value := by
  intro source c paths
  have everyPlace : [2, 3, 0, 1].Perm (List.range paths.length) := by decide
  have failing : paths.find? c.fails = some "gone" := by decide +kernel
  have front : throughFirst c.fails paths = ["a", "gone"] := by decide +kernel
  have reason : (c.file "gone").value.defect = some (.unreadable "gone" "no such source") := by
    decide +kernel
  obtain ⟨slots, _, _, _, _, defect, file, stopped⟩ := batch_agrees_with_files c paths everyPlace
  refine ⟨everyPlace, slots, file.trans failing, ?_, ?_⟩
  · rw [defect, failing, Option.bind_some, reason]
  · rw [stopped, front]

end TagCheck
