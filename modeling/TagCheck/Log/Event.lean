/-
# Events

While it works the checker reports events: what was pushed on and popped off the
tag stack, which brackets were passed over as types, which files were read and
which patterns were unusable.  An event is data.  Its severity, its wording, the
part of the program it belongs to and its named values are functions of it, and
whether it is shown at all is decided elsewhere.
-/

import TagCheck.Text.Position

namespace TagCheck

/-- Severities, most severe first. -/
inductive Level where
  | error
  | warn
  | info
  | debug
  | trace
  deriving DecidableEq, Repr

namespace Level

/-- Rank, growing with detail. -/
def rank : Level → Nat
  | error => 1
  | warn => 2
  | info => 3
  | debug => 4
  | trace => 5

def name : Level → String
  | error => "error"
  | warn => "warn"
  | info => "info"
  | debug => "debug"
  | trace => "trace"

end Level

/-- The value of a named field of an event. -/
inductive FieldValue where
  /-- A string that is shown in quotes. -/
  | quoted (text : String)
  /-- A string that is shown as it is. -/
  | plain (text : String)
  | count (value : Nat)
  | flag (value : Bool)
  deriving DecidableEq, Repr

/-- Something that happened during a run. -/
inductive Event where
  /-- An element or fragment was opened. -/
  | pushed (name : String) (site : Position)
  /-- The innermost element or fragment was closed by the tag at `site`. -/
  | popped (name : String) (site : Position)
  /-- An opening tag was met with the stack full, and was not recorded. -/
  | dropped (name : String) (site : Position)
  /-- The bracket at `site` was taken for one of the type level. -/
  | typeBrackets (site : Position) (rule : String)
  | fileRead (path : String) (tags : Nat) (valid : Bool)
  | fileUnreadable (path : String) (reason : String)
  /-- There was no room for the contents of a file of this many bytes. -/
  | noRoom (path : String) (bytes : Nat)
  | stoppedEarly (files : Nat)
  | batchFinished (files : Nat) (failures : Nat)
  | patternSkipped (pattern : String) (reason : String)
  | patternsLoaded (path : String) (count : Nat)
  | configLoaded (path : String)
  /-- What lies in a folder could not be looked at. -/
  | entrySkipped (reason : String)
  | discovered (inputs : Nat) (entries : Nat)
  /-- A file with a defect could not be read again to show the defect in it. -/
  | notShown (path : String) (reason : String)
  deriving DecidableEq, Repr

namespace Event

def level : Event → Level
  | pushed .. | popped .. | dropped .. | typeBrackets .. => .trace
  | noRoom .. | patternSkipped .. | entrySkipped .. => .warn
  | fileRead .. | fileUnreadable .. | stoppedEarly .. | batchFinished .. | patternsLoaded ..
  | configLoaded .. | discovered .. | notShown .. => .debug

def message : Event → String
  | pushed .. => "push"
  | popped .. => "pop"
  | dropped .. => "tag stack full, dropping push"
  | typeBrackets .. => "skipping type-level angle brackets"
  | fileRead .. => "validated file"
  | fileUnreadable .. => "could not read file"
  | noRoom .. => "could not allocate file buffer"
  | stoppedEarly .. => "stopping at first error"
  | batchFinished .. => "batch finished"
  | patternSkipped .. => "skipping invalid ignore pattern"
  | patternsLoaded .. => "loaded ignore patterns"
  | configLoaded .. => "loaded config"
  | entrySkipped .. => "skipping unreadable directory entry"
  | discovered .. => "discovered files"
  | notShown .. => "cannot reread for snippet"

/-- The part of the program that reports the event, as filters name it. -/
def target : Event → String
  | pushed .. | popped .. | dropped .. => "tsxcheck_scanner::tag_stack"
  | typeBrackets .. => "tsxcheck_scanner::scanner"
  | fileRead .. | fileUnreadable .. | noRoom .. | stoppedEarly .. | batchFinished .. =>
      "tsxcheck_validator"
  | patternSkipped .. | patternsLoaded .. => "tsxcheck_options::ignore"
  | configLoaded .. => "tsxcheck_options::config"
  | entrySkipped .. | discovered .. => "tsxcheck::discover"
  | notShown .. => "tsxcheck::report"

/-- The named values of an event, in the order in which they are shown. -/
def fields : Event → List (String × FieldValue)
  | pushed name site | popped name site =>
      [("name", .quoted name), ("line", .count site.line), ("column", .count site.column)]
  | dropped name site => [("name", .quoted name), ("line", .count site.line)]
  | typeBrackets site rule =>
      [("line", .count site.line), ("column", .count site.column), ("rule", .quoted rule)]
  | fileRead path tags valid =>
      [("path", .plain path), ("tags", .count tags), ("valid", .flag valid)]
  | fileUnreadable path reason | notShown path reason =>
      [("path", .plain path), ("error", .plain reason)]
  | noRoom path bytes => [("path", .plain path), ("len", .count bytes)]
  | stoppedEarly files => [("files", .count files)]
  | batchFinished files failures => [("files", .count files), ("failures", .count failures)]
  | patternSkipped pattern reason => [("pattern", .quoted pattern), ("error", .plain reason)]
  | patternsLoaded path count => [("path", .plain path), ("count", .count count)]
  | configLoaded path => [("path", .plain path)]
  | entrySkipped reason => [("error", .plain reason)]
  | discovered inputs entries => [("inputs", .count inputs), ("entries", .count entries)]

end Event

end TagCheck
