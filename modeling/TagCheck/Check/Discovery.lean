/-
# Discovering files

The paths given for a check name files or folders.  A file stands for itself,
whatever it is called.  A folder stands for the files below it that have an
extension that is checked, in the order of their names, apart from those in folders
of generated or foreign code.

On its way through a folder the search opens each folder by its whole path.  One that
does not let itself be opened is reported, and the search goes on behind it.
-/

import TagCheck.Config.IgnoreList

namespace TagCheck

/-- What is to be done with a discovered path. -/
inductive Disposition where
  | check
  /-- It is in the ignore list. -/
  | ignored
  /-- It was given by itself, but its extension is not checked. -/
  | foreign
  deriving DecidableEq, Repr

/-- A discovered path. -/
structure Discovery where
  path : String
  disposition : Disposition
  deriving DecidableEq, Repr

/-- The names of folders that are never entered from above. -/
def skippedFolders : List String := ["node_modules", ".git", "dist", "build"]

namespace FileTree

/-- Put what was found for each entry of a folder in the order of the names. -/
def inNameOrder (found : List (String × Logged (List String))) : Logged (List String) :=
  let sorted := found.mergeSort fun a b => decide (a.1 ≤ b.1)
  ⟨sorted.flatMap (·.2.value), sorted.flatMap (·.2.events)⟩

/-- What is found in the folder at a path by opening it, which a path that is too long does
not allow. -/
def opening (path : String) (found : Except FileError (Logged (List String))) :
    Logged (List String) :=
  match if path.utf8ByteSize > Disk.maxPathLength then .error .nameTooLong else found with
  | .ok inside => inside
  | .error problem =>
      ⟨[], [.entrySkipped ("IO error for operation on " ++ path ++ ": " ++ problem.message)]⟩

mutual

/-- The paths of the files in a tree that lies at `path`. -/
def filePaths (path : String) : FileTree → Logged (List String)
  | file _ => ⟨[path], []⟩
  | barred false _ => ⟨[path], []⟩
  | special _ => ⟨[], []⟩
  | barred true problem => opening path (.error problem)
  | folder entries => opening path (.ok (inNameOrder (entryPaths path entries)))

/-- The paths of the files of each entry, for the entries of a folder at `path`. -/
def entryPaths (path : String) :
    List (String × FileTree) → List (String × Logged (List String))
  | [] => []
  | (name, node) :: rest =>
      if node.isFolder && skippedFolders.contains name then entryPaths path rest
      else (name, filePaths (Path.join path name) node) :: entryPaths path rest

end

end FileTree

namespace Discovery

variable [GlobEngine]

/-- What is found for one path that was given. -/
def ofInput (disk : Disk) (config : Config) (ignore : IgnoreList) (input : String) :
    Logged (List Discovery) :=
  let unlessIgnored (path : String) : Discovery :=
    ⟨path, if ignore.ignores path then .ignored else .check⟩
  let single : Discovery :=
    if config.checks input then unlessIgnored input else ⟨input, .foreign⟩
  match disk.resolve input with
  | .ok tree =>
      if tree.isFolder then
        (tree.filePaths input).map fun paths => (paths.filter config.checks).map unlessIgnored
      else ⟨[single], []⟩
  | .error _ => ⟨[single], []⟩

/-- What is found for the paths that were given, in their order. -/
def ofInputs (disk : Disk) (config : Config) (ignore : IgnoreList) (inputs : List String) :
    Logged (List Discovery) :=
  let found := inputs.map (ofInput disk config ignore)
  let entries := found.flatMap (·.value)
  ⟨entries, found.flatMap (·.events) ++ [.discovered inputs.length entries.length]⟩

end Discovery

end TagCheck
