/-
# Command lines

The arguments of a call and what they ask for.  Flags may stand anywhere, short ones
in clusters, and behind two dashes everything is a path.  An option takes its value
from the same argument or from the next one, but a flag is never taken for a value.

The value of an option is looked at when the next argument has been recognised, not
before: an argument that is not known is reported first.

Messages quote arguments without the codes for terminals that they may hold.
-/

import TagCheck.Text.Terminal

namespace TagCheck.CommandLine

/-- When to use colors. -/
inductive ColorChoice where
  | auto
  | always
  | never
  deriving DecidableEq, Repr

/-- What a report looks like. -/
inductive OutputFormat where
  | text
  | json
  deriving DecidableEq, Repr

/-- A call that asks for a check. -/
structure Invocation where
  /-- The files and folders to check. -/
  paths : List String
  /-- Whether only defects are reported. -/
  quiet : Bool := false
  /-- Whether checking ends with the first file that has a defect. -/
  stop : Bool := false
  color : ColorChoice := .auto
  format : OutputFormat := .text
  /-- Whether the places of defects are shown. -/
  snippets : Bool := false
  /-- The configuration file, if it is not to be found by its name. -/
  config : Option String := none
  deriving DecidableEq, Repr

/-- What a call asks for. -/
inductive Request where
  | check (invocation : Invocation)
  | shortHelp
  | longHelp
  | version
  deriving DecidableEq, Repr

/-- A flag stands for itself. -/
inductive Flag where
  | quiet
  | stop
  | snippets
  | help
  | version
  deriving DecidableEq, Repr

/-- An option has a value. -/
inductive Opt where
  | color
  | format
  | config
  deriving DecidableEq, Repr

/-- An argument that starts with a dash. -/
inductive Switch where
  | flag (flag : Flag)
  | opt (opt : Opt)
  deriving DecidableEq, Repr

namespace Flag

def name : Flag → String
  | quiet => "--quiet"
  | stop => "--stop"
  | snippets => "--snippets"
  | help => "--help"
  | version => "--version"

end Flag

namespace Opt

/-- The option as messages name it. -/
def name : Opt → String
  | color => "--color <COLOR>"
  | format => "--format <FORMAT>"
  | config => "--config <FILE>"

end Opt

namespace Switch

/-- The switch of a name behind two dashes. -/
def ofLongName? : String → Option Switch
  | "quiet" => some (flag .quiet)
  | "stop" => some (flag .stop)
  | "snippets" => some (flag .snippets)
  | "help" => some (flag .help)
  | "version" => some (flag .version)
  | "color" => some (opt .color)
  | "format" => some (opt .format)
  | "config" => some (opt .config)
  | _ => none

/-- The switch of a letter behind one dash. -/
def ofLetter? : Char → Option Switch
  | 'q' => some (flag .quiet)
  | 's' => some (flag .stop)
  | 'h' => some (flag .help)
  | 'V' => some (flag .version)
  | 'c' => some (opt .config)
  | _ => none

end Switch

/-- What is wrong with the arguments of a call. -/
inductive UsageError where
  | unknownArgument (argument : String)
  | invalidValue (value : String) (option : String)
  | valueMissing (option : String)
  | valueUnwanted (value : String) (flag : String)
  | repeated (switch : String)
  | pathsMissing
  deriving DecidableEq, Repr

namespace UsageError

def message : UsageError → String
  | unknownArgument argument => "unexpected argument '" ++ Terminal.plainText argument ++ "' found"
  | invalidValue value option =>
      "invalid value '" ++ Terminal.plainText value ++ "' for '" ++ option ++ "'"
  | valueMissing option => "a value is required for '" ++ option ++ "' but none was supplied"
  | valueUnwanted value flag =>
      "unexpected value '" ++ Terminal.plainText value ++ "' for '" ++ flag ++
        "' found; no more were expected"
  | repeated switch => "the argument '" ++ switch ++ "' cannot be used multiple times"
  | pathsMissing => "the following required arguments were not provided:"

end UsageError

/-- The color choice that a value stands for. -/
def ColorChoice.ofText? : String → Option ColorChoice
  | "auto" => some auto
  | "always" => some always
  | "never" => some never
  | _ => none

/-- The format that a value stands for. -/
def OutputFormat.ofText? : String → Option OutputFormat
  | "text" => some text
  | "json" => some json
  | _ => none

/-- What is understood of the arguments so far. -/
structure Draft where
  /-- Latest first. -/
  paths : List String := []
  quiet : Bool := false
  stop : Bool := false
  snippets : Bool := false
  color : Option ColorChoice := none
  format : Option OutputFormat := none
  config : Option String := none

/-- Values that are read but not yet looked at. -/
inductive Pending where
  | nothing
  /-- An option without its value yet. -/
  | opt (opt : Opt)
  | optValue (opt : Opt) (value : String)
  /-- Paths that followed each other, latest first. -/
  | paths (paths : List String)

/-- Why reading arguments ends early: an error, or help or the version is asked
for. -/
inductive Early where
  | failed (error : UsageError)
  | asked (request : Request)

/-- How paths are named in messages. -/
def pathsName : String := "<PATH>..."

namespace Draft

/-- Take a value for an option. -/
def setOpt (draft : Draft) (opt : Opt) (value : String) : Except Early Draft :=
  let refused : Except Early Draft :=
    .error (.failed (if value = "" then .valueMissing opt.name else .invalidValue value opt.name))
  let again : Except Early Draft := .error (.failed (.repeated opt.name))
  match opt with
  | .color =>
      if draft.color.isSome then again
      else
        match ColorChoice.ofText? value with
        | some choice => .ok { draft with color := some choice }
        | none => refused
  | .format =>
      if draft.format.isSome then again
      else
        match OutputFormat.ofText? value with
        | some format => .ok { draft with format := some format }
        | none => refused
  | .config =>
      if draft.config.isSome then again
      else if value = "" then refused
      else .ok { draft with config := some value }

/-- Look at the values that are pending. -/
def settle (draft : Draft) : Pending → Except Early Draft
  | .nothing => .ok draft
  | .opt opt => .error (.failed (.valueMissing opt.name))
  | .optValue opt value => draft.setOpt opt value
  | .paths paths =>
      if paths.contains "" then .error (.failed (.valueMissing pathsName))
      else .ok { draft with paths := paths ++ draft.paths }

/-- Take a flag.  `isLong` tells whether it was written with its long name. -/
def setFlag (draft : Draft) (isLong : Bool) (flag : Flag) : Except Early Draft :=
  let once (isSet : Bool) (changed : Draft) : Except Early Draft :=
    if isSet then .error (.failed (.repeated flag.name)) else .ok changed
  match flag with
  | .quiet => once draft.quiet { draft with quiet := true }
  | .stop => once draft.stop { draft with stop := true }
  | .snippets => once draft.snippets { draft with snippets := true }
  | .help => .error (.asked (if isLong then .longHelp else .shortHelp))
  | .version => .error (.asked .version)

/-- What the arguments ask for once all are read. -/
def finish (draft : Draft) : Except Early Request :=
  if draft.paths.isEmpty then .error (.failed .pathsMissing)
  else
    .ok (.check {
      paths := draft.paths.reverse
      quiet := draft.quiet
      stop := draft.stop
      color := draft.color.getD .auto
      format := draft.format.getD .text
      snippets := draft.snippets
      config := draft.config })

end Draft

/-- What is understood, and what is pending, after an argument. -/
abbrev Progress := Except Early (Draft × Pending)

/-- Read an argument with a long name, behind its two dashes. -/
def readLong (draft : Draft) (pending : Pending) (text : List Char) : Progress :=
  let name := String.ofList (text.takeWhile (· ≠ '='))
  let value? := match text.dropWhile (· ≠ '=') with
    | [] => none
    | _ :: value => some (String.ofList value)
  match Switch.ofLongName? name, value? with
  | none, _ => .error (.failed (.unknownArgument ("--" ++ name)))
  | some (.flag flag), some value => .error (.failed (.valueUnwanted value flag.name))
  | some (.flag flag), none => do
      let draft ← draft.settle pending
      return (← draft.setFlag true flag, .nothing)
  | some (.opt opt), some value => do
      let draft ← draft.settle pending
      return (← draft.setOpt opt value, .nothing)
  | some (.opt opt), none => do return (← draft.settle pending, .opt opt)

/-- Read a cluster of letters behind one dash. -/
def readLetters (draft : Draft) (pending : Pending) : List Char → Progress
  | [] => .ok (draft, pending)
  | letter :: rest =>
      match Switch.ofLetter? letter with
      | none => .error (.failed (.unknownArgument (String.ofList ['-', letter])))
      | some (.flag flag) => do
          let draft ← draft.settle pending
          readLetters (← draft.setFlag false flag) .nothing rest
      | some (.opt opt) =>
          match rest with
          | [] => do return (← draft.settle pending, .opt opt)
          | '=' :: value => do
              let draft ← draft.settle pending
              return (← draft.setOpt opt (String.ofList value), .nothing)
          | value => do
              let draft ← draft.settle pending
              return (← draft.setOpt opt (String.ofList value), .nothing)

/-- Read an argument that is no switch: a path. -/
def readPath (draft : Draft) (pending : Pending) (argument : String) : Progress :=
  match pending with
  | .paths paths => .ok (draft, .paths (argument :: paths))
  | _ => do return (← draft.settle pending, .paths [argument])

/-- Read arguments.  `switches` tells whether switches are recognised. -/
def readFrom (draft : Draft) (pending : Pending) (switches : Bool) :
    List String → Except Early Request
  | [] => do (← draft.settle pending).finish
  | argument :: rest =>
      if !switches then do
        let (draft, pending) ← readPath draft pending argument
        readFrom draft pending false rest
      else
        match argument.toList with
        | ['-', '-'] => readFrom draft pending false rest
        | '-' :: '-' :: text => do
            let (draft, pending) ← readLong draft pending text
            readFrom draft pending true rest
        | '-' :: letter :: letters => do
            let (draft, pending) ← readLetters draft pending (letter :: letters)
            readFrom draft pending true rest
        | _ =>
            match pending with
            | .opt opt => readFrom draft (.optValue opt argument) true rest
            | _ => do
                let (draft, pending) ← readPath draft pending argument
                readFrom draft pending true rest

/-- What the arguments of a call ask for. -/
def Request.parse (arguments : List String) : Except UsageError Request :=
  match readFrom {} .nothing true arguments with
  | .ok request => .ok request
  | .error (.asked request) => .ok request
  | .error (.failed error) => .error error

end TagCheck.CommandLine
