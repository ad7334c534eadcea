/-
# A run

A run loads the settings of the project, discovers the files, checks them, and
reports.  Files are checked as a batch, or one by one if the run may have to stop at
the first defect.  Either way the run goes through what it has discovered once, takes
the next verdict where one is due, and keeps its tally.

A run is a function of its arguments, of the disk and of a few circumstances.  Its
course is a list of what happened and the tally in the end, and the two outputs are
made from these.
-/

import TagCheck.Check.Batch
import TagCheck.CommandLine.Fatal
import TagCheck.CommandLine.Help
import TagCheck.CommandLine.Report
import TagCheck.Log.Layout

namespace TagCheck.CommandLine

/-- Something that happened during a run. -/
inductive Happening where
  | logged (entry : Log.Entry)
  | recorded (record : Record)
  deriving DecidableEq, Repr

namespace Happening

/-- Events outside of batches. -/
def ofEvents (events : List Event) : List Happening :=
  events.map fun event => logged ⟨event, none⟩

def record? : Happening → Option Record
  | logged _ => none
  | recorded record => some record

end Happening

/-- The settings of a project. -/
structure Setup [GlobEngine] where
  config : Config
  ignore : IgnoreList

section

variable [GlobEngine] [Config.Decoder]

/-- The working folder. -/
def baseFolder : String := "."

/-- Load the configuration: the given file, or that of the working folder if it has
one. -/
def loadConfig (disk : Disk) (given : Option String) : Logged (Except SetupError Config) :=
  match given with
  | some path => Config.load disk path
  | none =>
      (Config.find disk baseFolder).map fun found =>
        found.map fun file => (file.map (·.2)).getD Config.unset

/-- Load the settings: the configuration, then the ignore file of the working folder,
to which the globs of the configuration are added. -/
def loadSetup (disk : Disk) (given : Option String) : Logged (Except SetupError Setup) :=
  (loadConfig disk given).andThen fun loaded =>
    match loaded with
    | .error error => ⟨.error error, []⟩
    | .ok config =>
        (IgnoreList.load disk (Path.join baseFolder IgnoreList.fileName)).andThen fun loaded =>
          match loaded with
          | .error error => ⟨.error error, []⟩
          | .ok ignore =>
              (ignore.extend (config.ignore.getD [])).map fun ignore => .ok ⟨config, ignore⟩

/-- Where a run has its verdicts from: each file is checked when its turn comes, or all
have been checked as a batch, of which these are left. -/
inductive Supply where
  | oneByOne
  | batch (left : List FileVerdict)

/-- The verdict on the path whose turn it is, and where the next one comes from; none if a
batch has run out. -/
def Supply.next? (checker : Checker) (path : String) : Supply → Option (Logged Verdict × Supply)
  | oneByOne => some (checker.file path, oneByOne)
  | batch [] => none
  | batch (file :: others) => some (⟨file.verdict, []⟩, batch others)

/-- What happened while a run went through some paths, and the tally afterwards. -/
structure Passage where
  happened : List Happening
  tally : Tally

/-- The passage with something that happened before. -/
def Passage.after (happened : List Happening) (p : Passage) : Passage where
  happened := happened ++ p.happened
  tally := p.tally

/-- Go through discovered files with a tally of what came before.  That ends early if a
batch has run out and, with `stop`, at the first defect. -/
def goThrough (checker : Checker) (stop : Bool) (supply : Supply) (tally : Tally) :
    List Discovery → Passage
  | [] => ⟨[], tally⟩
  | found :: rest =>
      match found.disposition with
      | .foreign =>
          let record : Record := ⟨found.path, .skipped⟩
          (goThrough checker stop supply (tally.pass record) rest).after [.recorded record]
      | .ignored =>
          let record : Record := ⟨found.path, .ignored⟩
          (goThrough checker stop supply (tally.pass record) rest).after [.recorded record]
      | .check =>
          match supply.next? checker found.path with
          | none => ⟨[], tally⟩
          | some (checked, left) =>
              let here := Happening.ofEvents checked.events ++
                [.recorded ⟨found.path, .checked checked.value⟩]
              let tally := tally.check found.path checked.value
              if stop && !checked.value.isValid then ⟨here, tally⟩
              else (goThrough checker stop left tally rest).after here

/-- The paths of discovered files that are to be checked. -/
def pathsToCheck (found : List Discovery) : List String :=
  (found.filter (·.disposition == .check)).map (·.path)

/-- Check discovered files one by one.  With `stop`, the first defect ends it. -/
def checkInOrder (checker : Checker) (stop : Bool) (found : List Discovery) : Passage :=
  goThrough checker stop .oneByOne {} found

/-- Check discovered files as a batch. -/
def checkAsBatch (checker : Checker) (found : List Discovery) : Passage :=
  let paths := pathsToCheck found
  let checked := checker.batch paths
  (goThrough checker false (.batch checked.value.files) {} found).after
    (checked.events.map fun event => .logged ⟨event, some ⟨paths.length⟩⟩)

/-- Discover the files and check them. -/
def checkFound (disk : Disk) (setup : Setup) (invocation : Invocation) : Passage :=
  let found := Discovery.ofInputs disk setup.config setup.ignore invocation.paths
  let checker : Checker := ⟨disk.source, setup.config.scanOptions⟩
  let stop := invocation.stop || setup.config.stops
  Passage.after (Happening.ofEvents found.events) <|
    if stop || !setup.config.isParallel then checkInOrder checker stop found.value
    else checkAsBatch checker found.value

/-- The course of a run that checks files. -/
structure Course where
  happened : List Happening
  /-- What the run has kept, or the error that ended it because the settings cannot be
  used. -/
  outcome : Except SetupError Tally

/-- The course that a run takes. -/
def course (disk : Disk) (invocation : Invocation) : Course :=
  let setup := loadSetup disk invocation.config
  match setup.value with
  | .error error => ⟨Happening.ofEvents setup.events, .error error⟩
  | .ok ready =>
      let checked := checkFound disk ready invocation
      ⟨Happening.ofEvents setup.events ++ checked.happened, .ok checked.tally⟩

end

/-- What a run depends on besides its arguments and the disk. -/
structure Circumstances where
  /-- The environment variables. -/
  environment : String → Option String := fun _ => none
  /-- Whether the output is read on a terminal. -/
  onTerminal : Bool := false
  /-- How long the run takes, in milliseconds. -/
  elapsed : Nat := 0
  /-- The time that log lines bear. -/
  stamp : String := ""
  /-- How a defect is shown in the text of the file at a path. -/
  drawing : String → Text → Defect → List String := labelLines

namespace Circumstances

/-- The variable that says what to log. -/
def logVariable : String := "TSXCHECK_LOG"

/-- The variable that says what to log if the other is not set. -/
def commonLogVariable : String := "RUST_LOG"

/-- The variable that says how log lines look. -/
def logFormatVariable : String := "TSXCHECK_LOG_FORMAT"

/-- The variable that turns the color of log lines off. -/
def noColorVariable : String := "NO_COLOR"

/-- How log lines look. -/
def logLayout (c : Circumstances) : Log.Layout :=
  if (c.environment logFormatVariable).any (·.toLower == "json") then .json
  else .text (((c.environment noColorVariable).getD "") == "")

/-- What is logged, and complaints about what was asked for; nothing is logged unless
a variable asks for it. -/
def logSettings (c : Circumstances) : Option Log.Settings × List String :=
  match (c.environment logVariable).or (c.environment commonLogVariable) with
  | none => (none, [])
  | some text =>
      let (filter, complaints) := Log.Filter.parse text
      (some ⟨filter, c.logLayout, c.stamp⟩, complaints)

/-- Whether a choice of colors means colors. -/
def usesColor (c : Circumstances) : ColorChoice → Bool
  | .auto => c.onTerminal
  | .always => true
  | .never => false

/-- How the report of a call looks. -/
def style (c : Circumstances) (invocation : Invocation) : Style :=
  { format := invocation.format
    quiet := invocation.quiet
    colored := c.usesColor invocation.color
    snippets := invocation.snippets }

end Circumstances

section

variable [Json.Writer]

/-- The lines that an event is logged as. -/
def logLines (settings : Option Log.Settings) (entry : Log.Entry) : List OutputLine :=
  ((settings.bind (·.line? entry)).toList).map .err

/-- What shows a defect in the file at a path, which is read again for that.  A defect
without a place is not shown. -/
def snippetLines (settings : Option Log.Settings)
    (drawing : String → Text → Defect → List String) (source : Source) (path : String)
    (defect : Defect) : List OutputLine :=
  if defect.position.isNone then []
  else
    match source path with
    | .ok contents => (drawing path contents defect).map .err
    | .error failure => logLines settings ⟨.notShown path failure.message, none⟩

/-- The lines that come with something that happened, given what shows a defect of the file at
a path. -/
def happeningLines (settings : Option Log.Settings) (style : Style)
    (shownAt : String → Defect → List OutputLine) : Happening → List OutputLine
  | .logged entry => logLines settings entry
  | .recorded record =>
      match style.format with
      | .text => style.recordLines shownAt record
      | .json => []

/-- The lines at the end of a run. -/
def closingLines (style : Style) (tally : Tally) (elapsed : Nat) : List OutputLine :=
  match style.format with
  | .text => style.summaryLines tally elapsed
  | .json => [.out (Json.Writer.text (reportJson tally elapsed))]

end

/-- What a program prints and the status it exits with. -/
structure Result where
  status : Nat
  output : String
  errors : String
  deriving DecidableEq, Repr

namespace Result

/-- The exit status when nothing could be done. -/
def fatalStatus : Nat := 2

/-- The result with these lines. -/
def ofLines (status : Nat) (printed : List OutputLine) : Result :=
  let text (channel : Channel) : String :=
    lines ((printed.filter (·.channel == channel)).map (·.text))
  ⟨status, text .out, text .err⟩

end Result

section

variable [GlobEngine] [Config.Decoder] [Json.Writer]

/-- What is printed about the course of a run. -/
def resultOf (c : Circumstances) (source : Source) (invocation : Invocation) (run : Course) :
    Result :=
  let style := c.style invocation
  let (settings, complaints) := c.logSettings
  let shownAt := snippetLines settings c.drawing source
  let before := complaints.map OutputLine.err ++
    run.happened.flatMap (happeningLines settings style shownAt)
  match run.outcome with
  | .error error =>
      .ofLines Result.fatalStatus (before ++ (fatalLines style.colored error).map .err)
  | .ok tally => .ofLines tally.exitStatus (before ++ closingLines style tally c.elapsed)

/-- Run a check. -/
def runCheck (c : Circumstances) (disk : Disk) (invocation : Invocation) : Result :=
  resultOf c disk.source invocation (course disk invocation)

/-- The check that a call asks for, or the answer to a call that asks for none. -/
def invocationOf (arguments : List String) : Except Result Invocation :=
  match Request.parse arguments with
  | .error error => .error ⟨Result.fatalStatus, "", usageText error⟩
  | .ok .shortHelp => .error ⟨0, shortHelp, ""⟩
  | .ok .longHelp => .error ⟨0, longHelp, ""⟩
  | .ok .version => .error ⟨0, versionText, ""⟩
  | .ok (.check invocation) => .ok invocation

/-- Run the program with these arguments. -/
def run (c : Circumstances) (disk : Disk) (arguments : List String) : Result :=
  match invocationOf arguments with
  | .error result => result
  | .ok invocation => runCheck c disk invocation

end

end TagCheck.CommandLine
