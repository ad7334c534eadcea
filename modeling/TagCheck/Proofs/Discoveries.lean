/-
# What is discovered

Discovering is read against the disk: an input that leads to a folder stands for files
below that folder, and any other input stands for itself (`FoundFor`). Of the files below a
folder none is missing and none is found twice, and they come in the order of their paths.
What has to be known about the disk is that entries of a folder have names, and different
ones. Whatever a path leads to lies on the disk, so that it has proper folders too
(`resolve_proper`), and the walk through it is the one of `FileTree.ways`.

The files below a folder are those that the walk comes by. It does not come by files in a folder
of which the path is too long to be opened, and none of these could be read.
-/

import TagCheck.Proofs.FolderWalk

namespace TagCheck

open FileTree

/-- All folders on the disk are proper. -/
structure Disk.Proper (disk : Disk) : Prop where
  here : FileTree.Proper disk.here
  above : ∀ tree ∈ disk.above, FileTree.Proper tree

theorem FileTree.Proper.child {entries : List (String × FileTree)} {name : String}
    {node : FileTree} (proper : FileTree.Proper (.folder entries))
    (found : child? name entries = some node) : FileTree.Proper node := by
  obtain ⟨entry, first, rfl⟩ := Option.map_eq_some_iff.mp found
  cases proper with
  | folder names different proper => exact proper entry (List.mem_of_find?_eq_some first)

namespace Disk

/-- Following a path stays within proper trees. -/
theorem follow_proper {above : List FileTree} {tree found : FileTree} {parts : List String}
    (outer : ∀ tree ∈ above, FileTree.Proper tree) (proper : FileTree.Proper tree)
    (followed : follow above tree parts = .ok found) : FileTree.Proper found := by
  induction parts generalizing above tree with
  | nil =>
      cases followed
      exact proper
  | cons part rest ih =>
      cases tree with
      | file contents => cases followed
      | special contents => cases followed
      | barred isFolder problem => cases isFolder <;> cases followed
      | folder entries =>
          simp only [follow] at followed
          split at followed
          · exact ih outer proper followed
          · split at followed
            · cases above with
              | nil => exact ih outer proper followed
              | cons tree above =>
                  obtain ⟨further, outer⟩ := List.forall_mem_cons.mp outer
                  exact ih outer further followed
            · split at followed
              · cases followed
              · split at followed
                · cases followed
                · rename_i found
                  exact ih (List.forall_mem_cons.mpr ⟨proper, outer⟩) (proper.child found)
                    followed

theorem resolve_proper {disk : Disk} (proper : disk.Proper) {path : String} {tree : FileTree}
    (resolved : disk.resolve path = .ok tree) : FileTree.Proper tree := by
  have root : FileTree.Proper (disk.above.getLast?.getD disk.here) := by
    cases outermost : disk.above.getLast? with
    | none => exact proper.here
    | some tree => exact proper.above tree (List.mem_of_getLast? outermost)
  rw [resolve] at resolved
  split at resolved
  · cases resolved
  split at resolved
  · cases resolved
  split at resolved
  · cases resolved
  split at resolved
  · exact follow_proper (List.forall_mem_nil _) root resolved
  · exact follow_proper proper.above proper.here resolved

theorem isFolder_iff {disk : Disk} {path : String} :
    disk.isFolder path = true ↔ ∃ tree, disk.resolve path = .ok tree ∧ tree.isFolder = true := by
  rw [Disk.isFolder]
  cases disk.resolve path with
  | error problem => simp
  | ok tree => simp

theorem ne_empty_of_resolve {disk : Disk} {path : String} {tree : FileTree}
    (resolved : disk.resolve path = .ok tree) : path ≠ "" := by
  rintro rfl
  cases resolved

end Disk

namespace Discovery

section

variable [GlobEngine] {disk : Disk} {config : Config} {ignore : IgnoreList} {input : String}

/-- What is found at a path that is checked. -/
def ofPath (ignore : IgnoreList) (path : String) : Discovery :=
  ⟨path, if ignore.ignores path then .ignored else .check⟩

theorem ofInput_of_folder {tree : FileTree} (leads : disk.resolve input = .ok tree)
    (isFolder : tree.isFolder = true) :
    (ofInput disk config ignore input).value =
      ((tree.ways.filter (isPassable input)).filter fun way =>
        config.checks (Path.below input way)).map fun way =>
          ofPath ignore (Path.below input way) := by
  simp only [ofInput, leads, isFolder, if_true]
  rw [Logged.map, filePaths_value, List.filter_map, List.map_map]
  rfl

theorem ofInput_of_other (other : disk.isFolder input = false) :
    (ofInput disk config ignore input).value =
      [if config.checks input then ofPath ignore input else ⟨input, .foreign⟩] := by
  rw [Disk.isFolder] at other
  rw [ofInput]
  split
  · rename_i tree leads
    rw [leads] at other
    have noFolder : ¬ tree.isFolder = true := Bool.eq_false_iff.mp other
    rw [if_neg noFolder]
    rfl
  · rfl

theorem ofInputs_value (disk : Disk) (config : Config) (ignore : IgnoreList)
    (inputs : List String) :
    (ofInputs disk config ignore inputs).value =
      inputs.flatMap fun input => (ofInput disk config ignore input).value := by
  rw [ofInputs, List.flatMap_map]

/-- What is found for an input, where it leads to. -/
inductive FoundFor (disk : Disk) (config : Config) (ignore : IgnoreList) (input : String) :
    List Discovery → Prop
  /-- For a folder these are the files below it that are checked, each of them once, on ways
  through folders that are not to be skipped and that can be opened, and in the order of their
  paths. Where no folder has too long a path to be opened, only the names matter. -/
  | below {tree : FileTree} {ways : List (List String)}
      (leads : disk.resolve input = .ok tree) (isFolder : tree.isFolder = true)
      (exact : ∀ way, way ∈ ways ↔ LeadsToFile tree way ∧
        (∀ name ∈ way.dropLast, name ∉ ["node_modules", ".git", "dist", "build"]) ∧
        (Path.below input way.dropLast).utf8ByteSize ≤ Disk.maxPathLength ∧
        config.checks (Path.below input way) = true)
      (unstopped : (∀ way, LeadsToFile tree way →
          (Path.below input way.dropLast).utf8ByteSize ≤ Disk.maxPathLength) →
        ∀ way, way ∈ ways ↔ LeadsToFile tree way ∧
          (∀ name ∈ way.dropLast, name ∉ ["node_modules", ".git", "dist", "build"]) ∧
          config.checks (Path.below input way) = true)
      (once : ways.Nodup)
      (ascending : ways.Pairwise fun way way' =>
        Path.Before (Path.below input way) (Path.below input way')) :
      FoundFor disk config ignore input (ways.map fun way => ofPath ignore (Path.below input way))
  /-- Everything else is found as it was given, whether or not it is checked and there. -/
  | itself (other : disk.isFolder input = false) :
      FoundFor disk config ignore input
        [if config.checks input then ofPath ignore input else ⟨input, .foreign⟩]

theorem ofInput_found (proper : disk.Proper) (config : Config) (ignore : IgnoreList)
    (input : String) :
    FoundFor disk config ignore input (ofInput disk config ignore input).value := by
  cases isFolder : disk.isFolder input with
  | false =>
      rw [ofInput_of_other isFolder]
      exact .itself isFolder
  | true =>
      obtain ⟨tree, leads, isFolder⟩ := Disk.isFolder_iff.mp isFolder
      have properFolder := Disk.resolve_proper proper leads
      have filled := Disk.ne_empty_of_resolve leads
      have names : ∀ way ∈ tree.ways, ∀ name ∈ way, Path.IsName name :=
        fun way taken => (mem_ways.mp taken).1.names properFolder
      have ascending := ways_ascending properFolder
      rw [ofInput_of_folder leads isFolder, List.filter_filter]
      have exact (way : List String) :
          way ∈ tree.ways.filter (fun way =>
              config.checks (Path.below input way) && isPassable input way) ↔
            LeadsToFile tree way ∧ (∀ name ∈ way.dropLast, name ∉ skippedFolders) ∧
              (Path.below input way.dropLast).utf8ByteSize ≤ Disk.maxPathLength ∧
              config.checks (Path.below input way) = true := by
        rw [List.mem_filter, mem_ways, and_assoc, Bool.and_eq_true, and_comm (b := _ = true)]
        apply and_congr_right
        intro leadsToFile
        rw [isPassable_iff input (leadsToFile.ne_nil isFolder)]
      refine .below leads isFolder exact ?_ ?_ ?_
      · intro short way
        rw [exact]
        apply and_congr_right
        intro leadsToFile
        rw [and_iff_right (short way leadsToFile)]
        exact Iff.rfl
      · exact (ascending.imp fun less same => absurd (same ▸ less) (List.lt_irrefl _)).filter _
      · apply List.Pairwise.filter
        apply ascending.imp_of_mem
        intro way way' taken taken' less
        exact Path.below_before filled (names way taken) (names way' taken') less

/-- Discovering gives what is found for the inputs one after the other: the files below a
folder, all of them, once and in order, and any other input as it is. -/
theorem ofInputs_found (proper : disk.Proper) (config : Config) (ignore : IgnoreList)
    (inputs : List String) :
    ∃ found : String → List Discovery,
      (ofInputs disk config ignore inputs).value = inputs.flatMap found ∧
        ∀ input, FoundFor disk config ignore input (found input) :=
  ⟨fun input => (ofInput disk config ignore input).value,
    ofInputs_value disk config ignore inputs, ofInput_found proper config ignore⟩

end

/-- A folder with a folder to be skipped, a file of the same name, a folder that is named like a
file to be checked, a pipe that is named like one, and a folder that nobody may open. -/
def sampleFolder : FileTree :=
  folder
    [("b.tsx", folder [("dist", file []), ("a.jsx", file [])]), ("Z.tsx", file []),
      ("dist", folder [("a.tsx", file [])]), ("c.tsx", special (.ok [])),
      ("locked", barred true (.system "Permission denied (os error 13)"))]

/-- It lies in a folder with a name to be skipped, beside a file that is not checked. -/
def sampleDisk : Disk where
  here := folder [("build", sampleFolder), ("notes.md", file [])]

theorem proper_sampleDisk : sampleDisk.Proper where
  here := by
    have inner : FileTree.Proper (folder [("dist", file []), ("a.jsx", file [])]) := by
      apply FileTree.Proper.folder
      · decide
      · decide
      · simp [FileTree.Proper.file]
    have skipped : FileTree.Proper (folder [("a.tsx", file [])]) := by
      apply FileTree.Proper.folder
      · decide
      · decide
      · simp [FileTree.Proper.file]
    have outer : FileTree.Proper sampleFolder := by
      apply FileTree.Proper.folder
      · decide
      · decide
      · simp [FileTree.Proper.file, FileTree.Proper.special, FileTree.Proper.barred, inner, skipped]
    apply FileTree.Proper.folder
    · decide
    · decide
    · simp [FileTree.Proper.file, outer]
  above := List.forall_mem_nil _

theorem resolve_sampleDisk : sampleDisk.resolve "build" = .ok sampleFolder := by
  rw [Disk.resolve, if_neg (by decide), if_neg (by decide), if_neg (by decide),
    if_neg (by decide +kernel)]
  rfl

theorem filePaths_sampleFolder :
    sampleFolder.filePaths "build" =
      ⟨["build/Z.tsx", "build/b.tsx/a.jsx", "build/b.tsx/dist"],
        [.entrySkipped
          "IO error for operation on build/locked: Permission denied (os error 13)"]⟩ := by
  -- sorting is not evaluated by deciding, so it is done first, folder by folder
  have sortedInner (a b : Logged (List String)) :
      [("dist", a), ("a.jsx", b)].mergeSort (fun a b => decide (a.1 ≤ b.1)) =
        [("a.jsx", b), ("dist", a)] := by
    simp [List.mergeSort, List.MergeSort.Internal.splitInTwo]
  have sortedOuter (a b c d : Logged (List String)) :
      [("b.tsx", a), ("Z.tsx", b), ("c.tsx", c), ("locked", d)].mergeSort
          (fun a b => decide (a.1 ≤ b.1)) =
        [("Z.tsx", b), ("b.tsx", a), ("c.tsx", c), ("locked", d)] := by
    simp [List.mergeSort, List.MergeSort.Internal.splitInTwo]
  have inner : (folder [("dist", file []), ("a.jsx", file [])]).filePaths "build/b.tsx" =
      ⟨["build/b.tsx/a.jsx", "build/b.tsx/dist"], []⟩ := by
    have entries : entryPaths "build/b.tsx" [("dist", file []), ("a.jsx", file [])] =
        [("dist", ⟨["build/b.tsx/dist"], []⟩), ("a.jsx", ⟨["build/b.tsx/a.jsx"], []⟩)] := by
      decide +kernel
    rw [filePaths, inNameOrder, entries, sortedInner]
    decide +kernel
  have tsx : Path.join "build" "b.tsx" = "build/b.tsx" := by decide +kernel
  have plain : filePaths (Path.join "build" "Z.tsx") (file []) = ⟨["build/Z.tsx"], []⟩ := by
    decide +kernel
  have locked : filePaths (Path.join "build" "locked")
      (barred true (.system "Permission denied (os error 13)")) =
      ⟨[], [.entrySkipped
        "IO error for operation on build/locked: Permission denied (os error 13)"]⟩ := by
    decide +kernel
  have pipe : filePaths (Path.join "build" "c.tsx") (special (.ok [])) = ⟨[], []⟩ := rfl
  have short : ¬ "build".utf8ByteSize > Disk.maxPathLength := by decide +kernel
  rw [sampleFolder, filePaths, opening, if_neg short]
  simp [inNameOrder, entryPaths, FileTree.isFolder, skippedFolders, tsx, inner, plain, pipe,
    locked, sortedOuter]

theorem ofInputs_found_sampleDisk :
    let found := ofInputs sampleDisk Config.unset IgnoreList.empty ["build", "notes.md"]
    sampleDisk.Proper ∧
      (∃ each : String → List Discovery, found.value = ["build", "notes.md"].flatMap each ∧
        ∀ input, FoundFor sampleDisk Config.unset IgnoreList.empty input (each input)) ∧
      found.value =
        [⟨"build/Z.tsx", .check⟩, ⟨"build/b.tsx/a.jsx", .check⟩, ⟨"notes.md", .foreign⟩] ∧
      found.events =
        [.entrySkipped "IO error for operation on build/locked: Permission denied (os error 13)",
          .discovered 2 3] := by
  intro found
  have build : ofInput sampleDisk Config.unset IgnoreList.empty "build" =
      ⟨[⟨"build/Z.tsx", .check⟩, ⟨"build/b.tsx/a.jsx", .check⟩],
        [.entrySkipped
          "IO error for operation on build/locked: Permission denied (os error 13)"]⟩ := by
    simp only [ofInput, resolve_sampleDisk]
    rw [if_pos (by decide), filePaths_sampleFolder]
    decide +kernel
  have notes : ofInput sampleDisk Config.unset IgnoreList.empty "notes.md" =
      ⟨[⟨"notes.md", .foreign⟩], []⟩ := by
    decide +kernel
  have all : found = ⟨_, _⟩ := rfl
  simp only [List.map_cons, List.map_nil, build, notes] at all
  refine ⟨proper_sampleDisk, ?_, ?_, ?_⟩
  · exact ofInputs_found proper_sampleDisk Config.unset IgnoreList.empty ["build", "notes.md"]
  · rw [all]
    rfl
  · rw [all]
    rfl

end Discovery

end TagCheck
