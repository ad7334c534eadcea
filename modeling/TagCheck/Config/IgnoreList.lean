/-
# Ignore lists

The paths that are not checked, as a list of globs.  A path is ignored if a glob
matches all of it or its file name.  An ignore file has one glob a line; empty lines
and lines that start with a hash sign do not count.  A line that is no glob is
reported and left out.
-/

import TagCheck.Config.Load
import TagCheck.Glob.Engine

namespace TagCheck

/-- The globs of paths to ignore, in the order in which they were added. -/
structure IgnoreList [GlobEngine] where
  globs : List CompiledGlob := []
  deriving Inhabited

namespace IgnoreList

variable [GlobEngine]

/-- The name of the file that holds the globs of a project. -/
def fileName : String := ".tsxcheckignore"

/-- The list that ignores nothing. -/
def empty : IgnoreList := {}

def size (l : IgnoreList) : Nat := l.globs.length

/-- The globs as they were written. -/
def patterns (l : IgnoreList) : List String := l.globs.map (·.text)

/-- Add a glob, if the text is one. -/
def push (l : IgnoreList) (pattern : String) : Logged IgnoreList :=
  match compiled : GlobEngine.compile pattern with
  | .ok matcher => ⟨⟨l.globs ++ [⟨pattern, matcher, compiled⟩]⟩, []⟩
  | .error reason => ⟨l, [.patternSkipped pattern reason]⟩

/-- Add globs one after the other. -/
def extend (l : IgnoreList) (patterns : List String) : Logged IgnoreList :=
  patterns.foldl (fun list pattern => list.andThen (·.push pattern)) ⟨l, []⟩

/-- A line without the carriage returns at its end. -/
def trimLine (line : List Char) : List Char :=
  (line.reverse.dropWhile (· = '\r')).reverse

/-- Whether a line is to be read as a glob. -/
def isPatternLine (line : List Char) : Bool := !line.isEmpty && line.head? != some '#'

/-- The lines of an ignore file that are to be read as globs. -/
def patternLines (text : String) : List String :=
  (((pieces '\n' text.toList).map trimLine).filter isPatternLine).map String.ofList

/-- The list that the text of an ignore file holds. -/
def parse (text : String) : Logged IgnoreList := empty.extend (patternLines text)

/-- Load the ignore file at a path.  If it is not there, nothing is ignored. -/
def load (disk : Disk) (path : String) : Logged (Except SetupError IgnoreList) :=
  match disk.readText path with
  | .ok text =>
      let read := parse text
      ⟨.ok read.value, read.events ++ [.patternsLoaded path read.value.size]⟩
  | .error .notFound => ⟨.ok empty, []⟩
  | .error error => ⟨.error (.unreadable path error), []⟩

/-- Whether a path is ignored. -/
def ignores (l : IgnoreList) (path : String) : Bool :=
  l.globs.any fun glob => glob.isMatch path || (Path.fileName? path).any glob.isMatch

end IgnoreList

end TagCheck
