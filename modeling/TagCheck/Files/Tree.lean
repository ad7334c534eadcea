/-
# File trees

A tree of folders and files, and the disk as it is seen from a working folder.
Following a path goes part by part, as an operating system does it: every part but
the last must lead to a folder, a slash at the end asks for a folder too, and what
goes wrong first is what is reported.  There are no links, and all names are texts:
a name that is not valid UTF-8 has no counterpart here.

Not everything in a tree can be opened: the system may refuse a file or a folder, and
there are pipes and devices, which are neither.
-/

import TagCheck.Text.Byte
import TagCheck.Text.Pieces

namespace TagCheck

/-- Why a file could not be read. -/
inductive FileError where
  | notFound
  | notAFolder
  | isAFolder
  | nameTooLong
  /-- No path can hold a zero byte. -/
  | zeroInPath
  /-- Text was wanted, but the bytes are not valid UTF-8. -/
  | notText
  /-- Anything else that the system reports, in its words. -/
  | system (words : String)
  deriving DecidableEq, Repr

namespace FileError

/-- The system's words for the error, with its number where it has one. -/
def message : FileError → String
  | notFound => "No such file or directory (os error 2)"
  | notAFolder => "Not a directory (os error 20)"
  | isAFolder => "Is a directory (os error 21)"
  | nameTooLong => "File name too long (os error 36)"
  | zeroInPath => "file name contained an unexpected NUL byte"
  | notText => "stream did not contain valid UTF-8"
  | system words => words

end FileError

/-- How many bytes a name may have. -/
def Disk.maxNameLength : Nat := 255

/-- How many bytes a path may have. -/
def Disk.maxPathLength : Nat := 4095

/-- A file with its contents, a folder with named entries, or what can only be tried. -/
inductive FileTree where
  | file (contents : Text)
  | folder (entries : List (String × FileTree))
  /-- A folder, or else a file, that the system does not let anyone open. -/
  | barred (isFolder : Bool) (problem : FileError)
  /-- Neither a file nor a folder, such as a pipe or a device, with what comes of reading
  it. -/
  | special (contents : Except FileError Text)
  deriving Inhabited

namespace FileTree

def isFolder : FileTree → Bool
  | folder _ => true
  | barred isFolder _ => isFolder
  | file _ | special _ => false

def isFile : FileTree → Bool
  | file _ => true
  | barred isFolder _ => !isFolder
  | folder _ | special _ => false

theorem isFolder_eq_false {tree : FileTree} (isFile : tree.isFile = true) :
    tree.isFolder = false := by
  cases tree with
  | file contents => rfl
  | folder entries => cases isFile
  | barred isFolder problem =>
      cases isFolder with
      | false => rfl
      | true => cases isFile
  | special contents => rfl

/-- The folder with nothing in it. -/
def empty : FileTree := folder []

/-- The entry of this name. -/
def child? (name : String) (entries : List (String × FileTree)) : Option FileTree :=
  (entries.find? (·.1 == name)).map (·.2)

/-- Put something under a name, in place of what was there. -/
def setEntry (name : String) (node : FileTree) :
    List (String × FileTree) → List (String × FileTree)
  | [] => [(name, node)]
  | (other, old) :: rest =>
      if other = name then (name, node) :: rest else (other, old) :: setEntry name node rest

/-- Put a file or an empty folder at the end of a way through folders, which are
made where they are missing.  A folder that is there already stays. -/
def put (leaf : FileTree) : List String → FileTree → FileTree
  | [], old => if leaf.isFolder && old.isFolder then old else leaf
  | name :: rest, tree =>
      let entries := match tree with
        | folder entries => entries
        | _ => []
      folder (setEntry name (put leaf rest ((child? name entries).getD empty)) entries)

/-- The tree that holds these files.  A path that ends with a slash makes an empty
folder. -/
def ofFiles (files : List (String × Text)) : FileTree :=
  files.foldl
    (fun tree (path, contents) =>
      let leaf := if path.endsWith "/" then empty else file contents
      put leaf ((stringPieces '/' path).filter fun part => part != "" && part != ".") tree)
    empty

end FileTree

/-- A file system as seen from a working folder. -/
structure Disk where
  /-- The folders around the working folder, nearest first. -/
  above : List FileTree := []
  /-- The working folder. -/
  here : FileTree
  deriving Inhabited

namespace Disk

/-- The disk on which there is nothing but these files.  They lie in and below the
working folder, which is not the root; where it lies has no name. -/
def ofFiles (files : List (String × Text)) : Disk where
  above := [FileTree.empty]
  here := FileTree.ofFiles files

/-- Go down to a folder from what has been passed and from where one stands; as far
as there is a way. -/
def descend (above : List FileTree) (here : FileTree) : List String → Disk
  | [] => { above := above, here := here }
  | name :: rest =>
      match here with
      | .folder entries =>
          match FileTree.child? name entries with
          | some inner => descend (here :: above) inner rest
          | none => { above := above, here := here }
      | _ => { above := above, here := here }

/-- A file system seen from the folder that these names lead to. -/
def seenFrom (root : FileTree) (names : List String) : Disk := descend [] root names

/-- Follow the parts of a path from a folder that lies in those of `above`. -/
def follow (above : List FileTree) (tree : FileTree) : List String → Except FileError FileTree
  | [] => .ok tree
  | part :: rest =>
      match tree with
      | .file _ | .special _ | .barred false _ => .error .notAFolder
      | .barred true problem => .error problem
      | .folder entries =>
          if part = "" || part = "." then follow above tree rest
          else if part = ".." then
            match above with
            | [] => follow [] tree rest
            | outer :: further => follow further outer rest
          else if part.utf8ByteSize > maxNameLength then .error .nameTooLong
          else
            match FileTree.child? part entries with
            | none => .error .notFound
            | some node => follow (tree :: above) node rest

/-- What a path leads to. -/
def resolve (disk : Disk) (path : String) : Except FileError FileTree :=
  if path.toList.contains '\x00' then .error .zeroInPath
  else if path = "" then .error .notFound
  else if path.utf8ByteSize > maxPathLength then .error .nameTooLong
  else if path.startsWith "/" then
    follow [] (disk.above.getLast?.getD disk.here) (stringPieces '/' path)
  else follow disk.above disk.here (stringPieces '/' path)

/-- Whether a path leads to a folder. -/
def isFolder (disk : Disk) (path : String) : Bool :=
  match disk.resolve path with
  | .ok tree => tree.isFolder
  | .error _ => false

/-- Whether a path leads to a file. -/
def isFile (disk : Disk) (path : String) : Bool :=
  match disk.resolve path with
  | .ok tree => tree.isFile
  | .error _ => false

/-- The contents of the file a path leads to. -/
def read (disk : Disk) (path : String) : Except FileError Text :=
  match disk.resolve path with
  | .ok (.file contents) => .ok contents
  | .ok (.folder _) => .error .isAFolder
  | .ok (.barred _ problem) => .error problem
  | .ok (.special contents) => contents
  | .error problem => .error problem

/-- The contents of a file as text. -/
def readText (disk : Disk) (path : String) : Except FileError String :=
  match disk.read path with
  | .error problem => .error problem
  | .ok contents =>
      match String.fromUTF8? ⟨contents.toArray⟩ with
      | some text => .ok text
      | none => .error .notText

end Disk

end TagCheck
