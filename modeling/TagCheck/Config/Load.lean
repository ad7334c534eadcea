/-
# Loading a configuration

A configuration is loaded from a file, and the file is found in a folder.  A file
that is there but cannot be used is an error, told apart by what is wrong: it
cannot be read, it is not JSON of the right shape, or a setting cannot be meant.

What its text says is up to a decoder, whichever it is; unless another is named, it is
the reader of this library.
-/

import TagCheck.Config.Reader
import TagCheck.Files.Tree
import TagCheck.Log.Logged

namespace TagCheck

/-- Why a file with settings cannot be used. -/
inductive SetupError where
  | unreadable (path : String) (error : FileError)
  /-- The file is not JSON of the right shape; `reason` says what is wrong where. -/
  | malformed (path : String) (reason : String)
  | unusable (path : String) (setting : Config.BadSetting)
  deriving DecidableEq, Repr

namespace SetupError

def message : SetupError → String
  | unreadable path _ => "failed to read " ++ path
  | malformed path _ => "invalid JSON in " ++ path
  | unusable path setting =>
      "invalid value for `" ++ setting.field ++ "` in " ++ path ++ ": " ++ setting.message

/-- The identifier under which the error can be looked up. -/
def code : SetupError → String
  | unreadable .. => "tsxcheck::config::io"
  | malformed .. => "tsxcheck::config::parse"
  | unusable .. => "tsxcheck::config::invalid"

/-- What lies behind the error, where something does. -/
def cause : SetupError → Option String
  | unreadable _ error => some error.message
  | malformed _ reason => some reason
  | unusable .. => none

end SetupError

namespace Config

/-- What takes the text of a configuration file for a configuration. -/
class Decoder where
  /-- The configuration that a text holds, or the words for what is wrong with the text. -/
  decode : String → Except String Config

instance : Decoder where
  decode text := (parse text).mapError (·.message text.toList)

variable [Decoder]

/-- Load the configuration file at a path. -/
def load (disk : Disk) (path : String) : Logged (Except SetupError Config) :=
  match disk.readText path with
  | .error error => ⟨.error (.unreadable path error), []⟩
  | .ok text =>
      match Decoder.decode text with
      | .error reason => ⟨.error (.malformed path reason), []⟩
      | .ok config =>
          let checked := match config.badSetting? with
            | some setting => .error (.unusable path setting)
            | none => .ok config
          ⟨checked, [.configLoaded path]⟩

/-- The configuration of a folder with the path of its file, if the folder has
one. -/
def find (disk : Disk) (folder : String) : Logged (Except SetupError (Option (String × Config))) :=
  let path := Path.join folder fileName
  if disk.isFile path then
    (load disk path).map fun loaded => loaded.map fun config => some (path, config)
  else ⟨.ok none, []⟩

end Config

end TagCheck
