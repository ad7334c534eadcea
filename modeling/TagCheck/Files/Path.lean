/-
# Paths

A path is written as text, and one place can be written in many ways.  The steps
of a path are what two spellings have in common: repeated and trailing slashes do
not count, nor does a dot, except in front, where it is a step of its own.
-/

import TagCheck.Text.Pieces

namespace TagCheck.Path

/-- A step on the way a path describes. -/
inductive Step where
  /-- To the root of the file system. -/
  | root
  /-- To where the path starts from; only ever the first step. -/
  | here
  | parent
  | into (name : String)
  deriving DecidableEq, Repr

/-- The steps that the parts of a path between its slashes stand for. -/
def stepsOf (parts : List String) : List Step :=
  parts.filterMap fun part =>
    if part = "" || part = "." then none
    else if part = ".." then some .parent
    else some (.into part)

/-- The steps of a path. -/
def steps (path : String) : List Step :=
  match stringPieces '/' path with
  | "" :: second :: rest => .root :: stepsOf (second :: rest)
  | "." :: rest => .here :: stepsOf rest
  | parts => stepsOf parts

/-- The name of what the path leads to, if its last step is into something. -/
def fileName? (path : String) : Option String :=
  match (steps path).getLast? with
  | some (.into name) => some name
  | _ => none

/-- The part of a file name behind its last dot.  A name that is all behind its
only dot, such as `.profile`, has no extension. -/
def extensionOf? (name : String) : Option String :=
  match (pieces '.' name.toList).reverse with
  | [] | [_] | [_, []] => none
  | last :: _ => some (String.ofList last)

/-- The extension of the file a path leads to. -/
def extension? (path : String) : Option String := (fileName? path).bind extensionOf?

/-- The path of something inside a folder. -/
def join (folder : String) (name : String) : String :=
  if folder = "" || folder.endsWith "/" then folder ++ name else folder ++ "/" ++ name

end TagCheck.Path
