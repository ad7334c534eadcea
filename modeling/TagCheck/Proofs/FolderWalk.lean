/-
# The files below a folder

A file below a folder is found on a way, which is the names of the folders that have to be
entered and then the name of the file (`LeadsToFile`). Of these ways the walk takes those that
enter no folder with a name to be skipped (`mem_ways`). It takes them in the order of their
names, and as the names in a folder are all different, each of them once (`ways_ascending`).

Which ways the walk takes does not depend on where the tree lies. But the walk opens folders by
their whole paths, and a path may be too long: the files that are found are those on ways along
which that never happens (`filePaths_value`).
-/

import Mathlib.Data.List.Basic
import TagCheck.Check.Discovery
import TagCheck.Proofs.PathSteps

namespace TagCheck.FileTree

/-- A statement holds of every tree if it holds of folders of which the entries have it, and of
what is no folder with entries. -/
@[elab_as_elim]
theorem entries_induction {motive : FileTree → Prop} (file : ∀ contents, motive (file contents))
    (folder : ∀ entries, (∀ entry ∈ entries, motive entry.2) → motive (folder entries))
    (barred : ∀ isFolder problem, motive (barred isFolder problem))
    (special : ∀ contents, motive (special contents)) (tree : FileTree) : motive tree :=
  @FileTree.rec motive (fun entries => ∀ entry ∈ entries, motive entry.2)
    (fun entry => motive entry.2) file folder barred special
    (List.forall_mem_nil _)
    (fun _ _ first others => List.forall_mem_cons.mpr ⟨first, others⟩)
    (fun _ _ node => node) tree

/-- These names lead down from a tree to one of its files. -/
inductive LeadsToFile : FileTree → List String → Prop
  | file {tree : FileTree} (isFile : tree.isFile = true) : LeadsToFile tree []
  | entry {entries : List (String × FileTree)} {entry : String × FileTree} {way : List String}
      (among : entry ∈ entries) (leads : LeadsToFile entry.2 way) :
      LeadsToFile (folder entries) (entry.1 :: way)

/-- In all folders of a tree the entries have names, all of them different. -/
inductive Proper : FileTree → Prop
  | file (contents : Text) : Proper (file contents)
  | folder {entries : List (String × FileTree)}
      (names : ∀ entry ∈ entries, Path.IsName entry.1) (different : (entries.map Prod.fst).Nodup)
      (proper : ∀ entry ∈ entries, Proper entry.2) : Proper (folder entries)
  | barred (isFolder : Bool) (problem : FileError) : Proper (barred isFolder problem)
  | special (contents : Except FileError Text) : Proper (special contents)

/-- Whether the walk goes on to an entry of a folder. -/
def isEntered (entry : String × FileTree) : Bool :=
  !(entry.2.isFolder && skippedFolders.contains entry.1)

/-- Whether an entry comes before another in the order of names. -/
def precedes {α : Type} (a b : String × α) : Bool := decide (a.1 ≤ b.1)

mutual

/-- The ways that the walk takes to the files of a tree, in its order, where it can open every
folder. -/
def ways : FileTree → List (List String)
  | file _ => [[]]
  | barred false _ => [[]]
  | special _ => []
  | barred true _ => []
  | folder entries => ((entryWays entries).mergeSort precedes).flatMap (·.2)

/-- The ways through each entry of a folder that the walk goes on to. -/
def entryWays : List (String × FileTree) → List (String × List (List String))
  | [] => []
  | (name, node) :: rest =>
      if isEntered (name, node) then (name, node.ways.map (name :: ·)) :: entryWays rest
      else entryWays rest

end

/-- The entries of a folder that the walk goes on to, in its order. -/
def entered (entries : List (String × FileTree)) : List (String × FileTree) :=
  (entries.filter isEntered).mergeSort precedes

theorem mem_entered {entries : List (String × FileTree)} {entry : String × FileTree} :
    entry ∈ entered entries ↔ entry ∈ entries ∧ isEntered entry = true := by
  rw [entered, List.mem_mergeSort, List.mem_filter]

/-- What is done for each entry that the walk goes on to can be put in order before or
afterwards. -/
theorem mergeSort_map_filter {β : Type} (f : String × FileTree → β)
    (entries : List (String × FileTree)) :
    ((entries.filter isEntered).map fun entry => (entry.1, f entry)).mergeSort precedes =
      (entered entries).map fun entry => (entry.1, f entry) :=
  (List.map_mergeSort (f := fun entry => (entry.1, f entry)) fun _ _ _ _ => rfl).symm

theorem ways_folder (entries : List (String × FileTree)) :
    (folder entries).ways =
      (entered entries).flatMap fun entry => entry.2.ways.map (entry.1 :: ·) := by
  have each : entryWays entries = (entries.filter isEntered).map fun entry =>
      (entry.1, entry.2.ways.map (entry.1 :: ·)) := by
    induction entries with
    | nil => rfl
    | cons entry entries ih =>
        rw [entryWays, ih, List.filter_cons]
        split
        · rfl
        · rfl
  rw [ways, each, mergeSort_map_filter, List.flatMap_map]

/-! ## Where the walk gets -/

/-- Whether every folder that a way leads through can be opened by its path, for a way that
begins in the folder at a path. -/
def isPassable (path : String) : List String → Bool
  | [] => true
  | name :: way => path.utf8ByteSize ≤ Disk.maxPathLength && isPassable (Path.join path name) way

theorem size_le_join (folder name : String) :
    folder.utf8ByteSize ≤ (Path.join folder name).utf8ByteSize := by
  rw [Path.join]
  split <;> simp only [String.utf8ByteSize_append] <;> omega

theorem size_le_below (folder : String) (way : List String) :
    folder.utf8ByteSize ≤ (Path.below folder way).utf8ByteSize := by
  induction way generalizing folder with
  | nil => exact Nat.le_refl _
  | cons name way ih => exact Nat.le_trans (size_le_join folder name) (ih _)

/-- Paths grow on the way, so it is the folder of the file that decides. -/
theorem isPassable_iff (path : String) {way : List String} (down : way ≠ []) :
    isPassable path way = true ↔
      (Path.below path way.dropLast).utf8ByteSize ≤ Disk.maxPathLength := by
  induction way generalizing path with
  | nil => exact absurd rfl down
  | cons name way ih =>
      rw [isPassable, Bool.and_eq_true, decide_eq_true_eq]
      cases way with
      | nil => exact and_iff_left rfl
      | cons next way =>
          rw [ih (Path.join path name) (List.cons_ne_nil _ _)]
          apply and_iff_right_of_imp
          intro deepest
          exact Nat.le_trans (size_le_join path name)
            (Nat.le_trans (size_le_below _ (next :: way).dropLast) deepest)

theorem opening_error (path : String) (problem : FileError) :
    (opening path (.error problem)).value = [] := by
  rw [opening]
  split
  · rename_i opened
    split at opened <;> cases opened
  · rfl

theorem opening_ok (path : String) (inside : Logged (List String)) :
    (opening path (.ok inside)).value =
      if path.utf8ByteSize > Disk.maxPathLength then [] else inside.value := by
  rw [opening]
  by_cases long : path.utf8ByteSize > Disk.maxPathLength
  · rw [if_pos long, if_pos long]
  · rw [if_neg long, if_neg long]

theorem filePaths_folder (path : String) (entries : List (String × FileTree)) :
    ((folder entries).filePaths path).value =
      if path.utf8ByteSize > Disk.maxPathLength then []
      else (entered entries).flatMap fun entry =>
        (entry.2.filePaths (Path.join path entry.1)).value := by
  have each : entryPaths path entries = (entries.filter isEntered).map fun entry =>
      (entry.1, entry.2.filePaths (Path.join path entry.1)) := by
    induction entries with
    | nil => rfl
    | cons entry entries ih =>
        obtain ⟨name, node⟩ := entry
        rw [entryPaths, ih, List.filter_cons, isEntered]
        cases node.isFolder && skippedFolders.contains name <;> rfl
  have sorted : (entryPaths path entries).mergeSort precedes = _ :=
    (congrArg (List.mergeSort · precedes) each).trans (mergeSort_map_filter _ entries)
  rw [filePaths, opening_ok]
  change (if _ then _ else ((entryPaths path entries).mergeSort precedes).flatMap _) = _
  rw [sorted, List.flatMap_map]

/-- The walk finds the files on the ways that it takes, if it is not stopped on them. -/
theorem filePaths_value (tree : FileTree) (path : String) :
    (tree.filePaths path).value = (tree.ways.filter (isPassable path)).map (Path.below path) := by
  induction tree using entries_induction generalizing path with
  | file contents => rfl
  | barred isFolder problem =>
      cases isFolder with
      | false => rfl
      | true => exact opening_error path problem
  | special contents => rfl
  | folder entries ih =>
      rw [filePaths_folder, ways_folder, List.filter_flatMap, List.map_flatMap]
      by_cases long : path.utf8ByteSize > Disk.maxPathLength
      · have stopped : ∀ name way, isPassable path (name :: way) = false := by
          intro name way
          rw [isPassable, decide_eq_false (Nat.not_le.mpr long), Bool.false_and]
        rw [if_pos long, eq_comm, List.flatMap_eq_nil_iff]
        intro entry among
        rw [List.map_eq_nil_iff, List.filter_eq_nil_iff]
        intro way through
        obtain ⟨rest, _, rfl⟩ := List.mem_map.mp through
        rw [stopped]
        exact Bool.false_ne_true
      · rw [if_neg long]
        apply List.flatMap_congr
        intro entry among
        have onward : isPassable path ∘ (entry.1 :: ·) = isPassable (Path.join path entry.1) := by
          funext way
          simp only [Function.comp_apply, isPassable, decide_eq_true (Nat.not_lt.mp long),
            Bool.true_and]
        rw [ih entry (mem_entered.mp among).1, List.filter_map, onward, List.map_map]
        rfl

/-! ## Which files are found -/

section Members

variable {way : List String}

theorem mem_ways_folder {entries : List (String × FileTree)} :
    way ∈ (folder entries).ways ↔ ∃ entry ∈ entries, isEntered entry = true ∧
      ∃ rest ∈ entry.2.ways, way = entry.1 :: rest := by
  rw [ways_folder, List.mem_flatMap]
  constructor
  · rintro ⟨entry, listed, within⟩
    obtain ⟨among, goesOn⟩ := mem_entered.mp listed
    obtain ⟨rest, taken, rfl⟩ := List.mem_map.mp within
    exact ⟨entry, among, goesOn, rest, taken, rfl⟩
  · rintro ⟨entry, among, goesOn, rest, taken, rfl⟩
    exact ⟨entry, mem_entered.mpr ⟨among, goesOn⟩, List.mem_map.mpr ⟨rest, taken, rfl⟩⟩

/-- Only what is below an entry makes it a folder that is entered on the way. -/
theorem isEntered_and_iff {entry : String × FileTree} (leads : LeadsToFile entry.2 way) :
    (isEntered entry = true ∧ ∀ name ∈ way.dropLast, name ∉ skippedFolders) ↔
      ∀ name ∈ (entry.1 :: way).dropLast, name ∉ skippedFolders := by
  obtain ⟨first, node⟩ := entry
  cases leads with
  | file isFile =>
      simp [isEntered, isFolder_eq_false isFile]
  | entry among leads =>
      rw [List.dropLast_cons_of_ne_nil (List.cons_ne_nil _ _), List.forall_mem_cons]
      simp [isEntered, isFolder]

theorem LeadsToFile.ne_nil {tree : FileTree} (leads : LeadsToFile tree way)
    (isFolder : tree.isFolder = true) : way ≠ [] := by
  cases leads with
  | file isFile =>
      rw [isFolder_eq_false isFile] at isFolder
      cases isFolder
  | entry among leads => exact List.cons_ne_nil _ _

/-- What is no folder with entries is a file itself or has none. -/
theorem leadsToFile_iff_of_other {tree : FileTree} (other : ∀ entries, tree ≠ folder entries) :
    LeadsToFile tree way ↔ tree.isFile = true ∧ way = [] := by
  constructor
  · intro leads
    cases leads with
    | file isFile => exact ⟨isFile, rfl⟩
    | entry among leads => exact absurd rfl (other _)
  · rintro ⟨isFile, rfl⟩
    exact .file isFile

theorem mem_ways_of_other {tree : FileTree} (other : ∀ entries, tree ≠ folder entries)
    (own : tree.ways = if tree.isFile then [[]] else []) :
    way ∈ tree.ways ↔ LeadsToFile tree way ∧ ∀ name ∈ way.dropLast, name ∉ skippedFolders := by
  rw [own, leadsToFile_iff_of_other other]
  cases tree.isFile with
  | false => simp
  | true =>
      rw [if_pos rfl, List.mem_singleton]
      constructor
      · rintro rfl
        exact ⟨⟨rfl, rfl⟩, List.forall_mem_nil _⟩
      · rintro ⟨⟨_, rfl⟩, _⟩
        rfl

/-- The walk takes the ways to files that enter no folder to be skipped. The name of the file
does not matter, nor does that of the folder where the walk begins. -/
theorem mem_ways {tree : FileTree} :
    way ∈ tree.ways ↔ LeadsToFile tree way ∧ ∀ name ∈ way.dropLast, name ∉ skippedFolders := by
  induction tree using entries_induction generalizing way with
  | file contents => exact mem_ways_of_other (fun _ same => by cases same) rfl
  | barred isFolder problem =>
      exact mem_ways_of_other (fun _ same => by cases same) (by cases isFolder <;> rfl)
  | special contents => exact mem_ways_of_other (fun _ same => by cases same) rfl
  | folder entries ih =>
      rw [mem_ways_folder]
      constructor
      · rintro ⟨entry, among, goesOn, rest, taken, rfl⟩
        obtain ⟨leads, unskipped⟩ := (ih entry among).mp taken
        exact ⟨.entry among leads, (isEntered_and_iff leads).mp ⟨goesOn, unskipped⟩⟩
      · rintro ⟨leads, unskipped⟩
        cases leads with
        | file isFile => cases isFile
        | @entry _ entry rest among leads =>
            obtain ⟨goesOn, unskipped⟩ := (isEntered_and_iff leads).mpr unskipped
            exact ⟨entry, among, goesOn, rest, (ih entry among).mpr ⟨leads, unskipped⟩, rfl⟩

end Members

/-! ## In which order -/

theorem mergeSort_precedes {α : Type} (entries : List (String × α)) :
    (entries.mergeSort precedes).Pairwise fun a b => a.1 ≤ b.1 := by
  have sorted : (entries.mergeSort precedes).Pairwise fun a b => precedes a b = true := by
    apply List.pairwise_mergeSort
    · intro a b c first second
      exact decide_eq_true (String.le_trans (of_decide_eq_true first) (of_decide_eq_true second))
    · intro a b
      rw [Bool.or_eq_true]
      exact (String.le_total a.1 b.1).imp decide_eq_true decide_eq_true
  exact sorted.imp fun first => of_decide_eq_true first

/-- Names that are all different are sorted strictly. -/
theorem mergeSort_precedes_lt {α : Type} {entries : List (String × α)}
    (different : (entries.map Prod.fst).Nodup) :
    (entries.mergeSort precedes).Pairwise fun a b => a.1 < b.1 := by
  have apart : (entries.mergeSort precedes).Pairwise fun a b => a.1 ≠ b.1 := by
    apply List.pairwise_map.mp
    exact ((List.mergeSort_perm entries precedes).map Prod.fst).nodup_iff.mpr different
  apply ((mergeSort_precedes entries).and apart).imp
  rintro a b ⟨notAfter, other⟩
  apply Classical.byContradiction
  intro notBefore
  exact other (String.le_antisymm notAfter notBefore)

/-- The walk takes the ways in ascending order, compared name by name. -/
theorem ways_ascending {tree : FileTree} (proper : Proper tree) :
    tree.ways.Pairwise (· < ·) := by
  induction tree using entries_induction with
  | file contents => exact List.pairwise_singleton _ _
  | barred isFolder problem =>
      cases isFolder with
      | false => exact List.pairwise_singleton _ _
      | true => exact .nil
  | special contents => exact .nil
  | folder entries ih =>
      cases proper with
      | folder names different proper =>
          have differentEntered : ((entries.filter isEntered).map Prod.fst).Nodup :=
            (List.filter_sublist.map Prod.fst).nodup different
          rw [ways_folder, List.pairwise_flatMap]
          constructor
          · intro entry listed
            obtain ⟨among, _⟩ := mem_entered.mp listed
            apply List.pairwise_map.mpr
            exact (ih entry among (proper entry among)).imp fun less =>
              List.cons_lt_cons_iff.mpr (.inr ⟨rfl, less⟩)
          · apply (mergeSort_precedes_lt differentEntered).imp
            intro entry entry' less way through way' through'
            obtain ⟨rest, _, rfl⟩ := List.mem_map.mp through
            obtain ⟨rest', _, rfl⟩ := List.mem_map.mp through'
            exact List.cons_lt_cons_iff.mpr (.inl less)

/-- On a way down a proper tree there are only names. -/
theorem LeadsToFile.names {tree : FileTree} {way : List String} (leads : LeadsToFile tree way)
    (proper : Proper tree) : ∀ name ∈ way, Path.IsName name := by
  induction leads with
  | file isFile => exact List.forall_mem_nil _
  | entry among leads ih =>
      cases proper with
      | folder names different proper =>
          exact List.forall_mem_cons.mpr ⟨names _ among, ih (proper _ among)⟩

end TagCheck.FileTree
