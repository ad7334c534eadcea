/-
# Project configuration

What a project may say about how it wants to be checked.  Everything is optional,
and what is not said is decided by defaults.
-/

import TagCheck.Files.Path
import TagCheck.Markup.Options

namespace TagCheck

/-- The configuration of a project, as far as it is given. -/
structure Config where
  /-- The extensions of the files to check; a dot in front does not matter. -/
  extensions : Option (List String) := none
  /-- Globs to ignore, beside those of the ignore file. -/
  ignore : Option (List String) := none
  maxDepth : Option Nat := none
  overflow : Option OverflowPolicy := none
  commentsInTemplateText : Option Bool := none
  stopOnFirstError : Option Bool := none
  /-- Whether files are checked as a batch. -/
  parallel : Option Bool := none
  deriving DecidableEq, Repr, Inhabited

namespace Config

/-- The name of the file that holds the configuration. -/
def fileName : String := "tsxcheck.json"

/-- The configuration that says nothing. -/
def unset : Config := {}

/-- The extensions that are checked if none are given. -/
def defaultExtensions : List String := ["tsx", "jsx"]

/-- The options for scanning; where nothing is given, those of `ScanOptions`. -/
def scanOptions (c : Config) : ScanOptions :=
  let standard : ScanOptions := {}
  { standard with
    maxDepth := c.maxDepth.getD standard.maxDepth
    overflow := c.overflow.getD standard.overflow
    commentsInTemplateText := c.commentsInTemplateText.getD standard.commentsInTemplateText }

/-- Whether checking ends with the first file that has a defect. -/
def stops (c : Config) : Bool := c.stopOnFirstError.getD false

/-- Whether files may be checked as a batch. -/
def isParallel (c : Config) : Bool := c.parallel.getD true

/-- An extension without the dots in front of it. -/
def bareExtension (extension : String) : String :=
  String.ofList (extension.toList.dropWhile (· = '.'))

/-- The extensions that are checked. -/
def checkedExtensions (c : Config) : List String :=
  match c.extensions with
  | some extensions => extensions.map bareExtension
  | none => defaultExtensions

/-- Whether the file a path leads to has an extension that is checked. -/
def checks (c : Config) (path : String) : Bool :=
  (Path.extension? path).any c.checkedExtensions.contains

/-- A setting that cannot be meant. -/
inductive BadSetting where
  | zeroDepth
  | emptyExtension
  deriving DecidableEq, Repr

namespace BadSetting

/-- The field that holds the setting. -/
def field : BadSetting → String
  | zeroDepth => "maxDepth"
  | emptyExtension => "extensions"

def message : BadSetting → String
  | zeroDepth => "must be at least 1"
  | emptyExtension => "empty extension"

end BadSetting

/-- The first setting that cannot be meant. -/
def badSetting? (c : Config) : Option BadSetting :=
  if c.maxDepth = some 0 then some .zeroDepth
  else if (c.extensions.getD []).any fun extension => bareExtension extension = "" then
    some .emptyExtension
  else none

end Config

end TagCheck
