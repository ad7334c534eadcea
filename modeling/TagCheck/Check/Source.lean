/-
# Where texts come from

A check reads files through a source, which maps every path to the contents of a
file or to the reason why there are none.  The disk is one source; a store in
memory, which takes two spellings of a path for the same file, is another.
-/

import TagCheck.Files.Path
import TagCheck.Files.Tree

namespace TagCheck

/-- Why a source has no contents for a path. -/
inductive ReadFailure where
  /-- The source knows no such path. -/
  | missing
  | file (error : FileError)
  /-- There was no room for a file of this many bytes. -/
  | noRoom (bytes : Nat)
  deriving DecidableEq, Repr

namespace ReadFailure

def message : ReadFailure → String
  | missing => "no such source"
  | file error => error.message
  | noRoom bytes => "buffer allocation of " ++ toString bytes ++ " bytes failed"

end ReadFailure

/-- What can be read at each path. -/
abbrev Source := String → Except ReadFailure Text

/-- The files of a disk. -/
def Disk.source (disk : Disk) : Source := fun path => (disk.read path).mapError .file

/-- Contents kept in memory by the steps of their paths. -/
structure MemoryStore where
  entries : List (List Path.Step × Text) := []
  deriving DecidableEq, Repr, Inhabited

namespace MemoryStore

/-- The store without files. -/
def empty : MemoryStore := {}

/-- Add a file, in place of one at the same path. -/
def insert (store : MemoryStore) (path : String) (contents : Text) : MemoryStore :=
  let key := Path.steps path
  ⟨(key, contents) :: store.entries.filter (·.1 != key)⟩

def get? (store : MemoryStore) (path : String) : Option Text :=
  (store.entries.find? (·.1 == Path.steps path)).map (·.2)

/-- The number of files. -/
def size (store : MemoryStore) : Nat := store.entries.length

def isEmpty (store : MemoryStore) : Bool := store.entries.isEmpty

/-- The store with these files, put in one after the other. -/
def ofFiles (files : List (String × Text)) : MemoryStore :=
  files.foldl (fun store (path, contents) => store.insert path contents) empty

def source (store : MemoryStore) : Source := fun path =>
  match store.get? path with
  | some contents => .ok contents
  | none => .error .missing

@[simp] theorem get?_insert_self (store : MemoryStore) (path : String) (contents : Text) :
    (store.insert path contents).get? path = some contents := by
  simp [insert, get?]

end MemoryStore

end TagCheck
