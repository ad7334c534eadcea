/-
# Which files a run checks

When the check of a file has come to its end, an event says so. The files that a run checks
can therefore be told from its events (`filesRead`), whether or not they are reported. A run
checks exactly the files that it has a verdict on record for, in the order of the records
(`readAsRecorded_course`). Loading the settings checks none (`filesRead_loadSetup`), so a run
whose settings cannot be used checks none at all; nor does discovering.
-/

import TagCheck.Proofs.FolderWalk
import TagCheck.Proofs.RunModes
import TagCheck.Proofs.StackLaws

namespace TagCheck

/-- The file whose check has come to its end with an event. -/
def Event.fileRead? : Event → Option String
  | fileRead path _ _ => some path
  | _ => none

/-- The files whose checks have come to an end among some events. -/
def filesRead (events : List Event) : List String := events.filterMap Event.fileRead?

theorem filesRead_append (first second : List Event) :
    filesRead (first ++ second) = filesRead first ++ filesRead second :=
  List.filterMap_append

theorem filesRead_eq_nil {events : List Event} :
    filesRead events = [] ↔ ∀ e ∈ events, e.fileRead? = none :=
  List.filterMap_eq_nil_iff

/-! ## Settings -/

section Settings

theorem filesRead_andThen {α β : Type} {first : Logged α} {next : α → Logged β}
    (none : filesRead first.events = []) (noneNext : ∀ a, filesRead (next a).events = []) :
    filesRead (first.andThen next).events = [] := by
  rw [Logged.andThen, filesRead_append, none, noneNext]
  rfl

theorem filesRead_extend [GlobEngine] (list : IgnoreList) (patterns : List String) :
    filesRead (list.extend patterns).events = [] := by
  have pushed (l : IgnoreList) (pattern : String) : filesRead (l.push pattern).events = [] := by
    unfold IgnoreList.push
    split <;> rfl
  have folded (start : Logged IgnoreList) (none : filesRead start.events = []) :
      filesRead (patterns.foldl (fun l pattern => l.andThen (·.push pattern)) start).events =
        [] := by
    induction patterns generalizing start with
    | nil => exact none
    | cons pattern rest ih => exact ih _ (filesRead_andThen none (pushed · pattern))
  exact folded ⟨list, []⟩ rfl

theorem filesRead_ignoreList [GlobEngine] (disk : Disk) (path : String) :
    filesRead (IgnoreList.load disk path).events = [] := by
  unfold IgnoreList.load
  split
  · rw [filesRead_append, IgnoreList.parse, filesRead_extend]
    rfl
  · rfl
  · rfl

theorem filesRead_config [Config.Decoder] (disk : Disk) (path : String) :
    filesRead (Config.load disk path).events = [] := by
  unfold Config.load
  split
  · rfl
  · split <;> rfl

namespace CommandLine

theorem filesRead_loadConfig [Config.Decoder] (disk : Disk) (given : Option String) :
    filesRead (loadConfig disk given).events = [] := by
  unfold loadConfig
  split
  · exact filesRead_config disk _
  · change filesRead (Config.find disk baseFolder).events = []
    simp only [Config.find]
    split
    · exact filesRead_config disk _
    · rfl

/-- Loading the settings checks no file. -/
theorem filesRead_loadSetup [GlobEngine] [Config.Decoder] (disk : Disk) (given : Option String) :
    filesRead (loadSetup disk given).events = [] := by
  refine filesRead_andThen (filesRead_loadConfig disk given) fun loaded => ?_
  split
  · rfl
  · refine filesRead_andThen (filesRead_ignoreList disk _) fun loaded => ?_
    split
    · rfl
    · exact filesRead_extend _ _

end CommandLine
end Settings

/-! ## Discovering -/

section Discovering

open FileTree

theorem filesRead_opening {path : String} {found : Except FileError (Logged (List String))}
    (inside : ∀ logged, found = .ok logged → filesRead logged.events = []) :
    filesRead (opening path found).events = [] := by
  rw [opening]
  split
  · rename_i logged opened
    split at opened
    · cases opened
    · exact inside logged opened
  · rfl

theorem filesRead_flatMap {α : Type} {events : α → List Event} {list : List α}
    (none : ∀ a ∈ list, filesRead (events a) = []) : filesRead (list.flatMap events) = [] := by
  rw [filesRead, List.filterMap_flatMap, List.flatMap_eq_nil_iff]
  exact none

/-- Walking through a folder checks no file. -/
theorem filesRead_filePaths (tree : FileTree) (path : String) :
    filesRead (tree.filePaths path).events = [] := by
  induction tree using entries_induction generalizing path with
  | file contents => rfl
  | special contents => rfl
  | barred isFolder problem =>
      cases isFolder with
      | false => rfl
      | true => exact filesRead_opening fun _ none => by cases none
  | folder entries ih =>
      have each : ∀ found ∈ entryPaths path entries, filesRead found.2.events = [] := by
        induction entries with
        | nil => exact List.forall_mem_nil _
        | cons entry entries others =>
            obtain ⟨first, rest⟩ := List.forall_mem_cons.mp ih
            rw [entryPaths]
            split
            · exact others rest
            · exact List.forall_mem_cons.mpr ⟨first _, others rest⟩
      apply filesRead_opening
      rintro _ ⟨⟩
      exact filesRead_flatMap fun found among => each found (List.mem_mergeSort.mp among)

/-- Discovering checks no file. -/
theorem filesRead_ofInputs [GlobEngine] (disk : Disk) (config : Config) (ignore : IgnoreList)
    (inputs : List String) :
    filesRead (Discovery.ofInputs disk config ignore inputs).events = [] := by
  rw [Discovery.ofInputs, filesRead_append, List.flatMap_map, filesRead_flatMap]
  · rfl
  · intro input _
    rw [Discovery.ofInput]
    split
    · split
      · exact filesRead_filePaths _ input
      · rfl
    · rfl

end Discovering

/-! ## The check of a file -/

/-- Nothing that the nesting reports is the end of a check. -/
def Nesting.Midway (n : Nesting) : Prop := ∀ e ∈ n.reported, e.fileRead? = none

namespace Nesting

variable {n m : Nesting}

theorem Midway.report (midway : n.Midway) {event : Event} (inside : event.fileRead? = none) :
    (n.report event).Midway :=
  List.forall_mem_cons.mpr ⟨inside, midway⟩

theorem Midway.meet (midway : n.Midway) {lexeme : Lexeme} (met : n.meet lexeme = .ok m) :
    m.Midway := by
  cases lexeme with
  | typeBrackets site rule =>
      cases met
      exact midway.report rfl
  | tag t =>
      rw [Nesting.meet] at met
      split at met
      · unfold openTag at met
        split at met
        · cases met
        · split at met
          · cases met
            exact midway.report rfl
          · cases met
            exact Midway.report midway rfl
      · unfold closeTag at met
        split at met
        · cases met
        · cases met
          split
          · exact Midway.report midway rfl
          · exact Midway.report midway rfl
      · cases met
        exact midway

theorem Midway.settle (midway : n.Midway) (lexemes : List Lexeme) :
    filesRead (n.settle lexemes).events = [] := by
  induction lexemes generalizing n with
  | nil => exact filesRead_eq_nil.mpr fun e among => midway e (List.mem_reverse.mp among)
  | cons lexeme rest ih =>
      rw [Nesting.settle]
      cases met : n.meet lexeme with
      | error defect =>
          exact filesRead_eq_nil.mpr fun e among => midway e (List.mem_reverse.mp among)
      | ok m => exact ih (midway.meet met)

end Nesting

theorem filesRead_scan (options : ScanOptions) (text : Text) :
    filesRead (scan options text).events = [] :=
  Nesting.Midway.settle (n := Nesting.start options) (List.forall_mem_nil _) _

/-- The check of a file ends with the event that says so, and has no other such event. -/
theorem Checker.filesRead_file (c : Checker) (path : String) :
    filesRead (c.file path).events = [path] := by
  have contents : filesRead (c.contents path).events = [] := by
    unfold Checker.contents
    split
    · exact filesRead_scan _ _
    · rfl
    · rfl
  rw [Checker.file, filesRead_append, contents]
  rfl

/-! ## The whole run -/

namespace CommandLine

def Happening.event? : Happening → Option Event
  | logged entry => some entry.event
  | recorded _ => none

/-- The events of a course, in order. -/
def eventsOf (happened : List Happening) : List Event := happened.filterMap (·.event?)

/-- The paths that a verdict is on record for. -/
def pathsChecked (records : List Record) : List String :=
  (records.filter (·.verdict?.isSome)).map (·.path)

theorem eventsOf_append (first second : List Happening) :
    eventsOf (first ++ second) = eventsOf first ++ eventsOf second :=
  List.filterMap_append

theorem eventsOf_logged (entry : Event → Log.Entry) (same : ∀ event, (entry event).event = event)
    (events : List Event) : eventsOf (events.map fun event => .logged (entry event)) = events := by
  rw [eventsOf, List.filterMap_map]
  have onward : Happening.event? ∘ (fun event => .logged (entry event)) = some :=
    funext fun event => congrArg some (same event)
  rw [onward, List.filterMap_some]

theorem eventsOf_ofEvents (events : List Event) : eventsOf (Happening.ofEvents events) = events :=
  eventsOf_logged _ (fun _ => rfl) events

theorem eventsOf_recorded (record : Record) : eventsOf [.recorded record] = [] := rfl

theorem pathsChecked_append (first second : List Record) :
    pathsChecked (first ++ second) = pathsChecked first ++ pathsChecked second := by
  rw [pathsChecked, List.filter_append, List.map_append]
  rfl

section

variable {c : Checker}

/-- The files whose checks have come to an end are those with a verdict on record. -/
def ReadAsRecorded (happened : List Happening) : Prop :=
  filesRead (eventsOf happened) = pathsChecked (recordsOf happened)

theorem ReadAsRecorded.append {first second : List Happening} (one : ReadAsRecorded first)
    (two : ReadAsRecorded second) : ReadAsRecorded (first ++ second) := by
  rw [ReadAsRecorded, eventsOf_append, filesRead_append, one, two, recordsOf_append,
    pathsChecked_append]

theorem ReadAsRecorded.ofEvents {events : List Event} (none : filesRead events = []) :
    ReadAsRecorded (Happening.ofEvents events) := by
  rw [ReadAsRecorded, eventsOf_ofEvents, none, recordsOf_ofEvents]
  rfl

/-- The check of a file and its record. -/
theorem readAsRecorded_file (path : String) :
    ReadAsRecorded (Happening.ofEvents (c.file path).events ++
      [.recorded ⟨path, .checked (c.file path).value⟩]) := by
  rw [ReadAsRecorded, eventsOf_append, eventsOf_ofEvents, eventsOf_recorded, List.append_nil,
    c.filesRead_file, recordsOf_here]
  rfl

/-- One by one, each file is checked right before its record. -/
theorem readAsRecorded_checkInOrder (stop : Bool) (found : List Discovery) :
    ReadAsRecorded (checkInOrder c stop found).happened := by
  rw [checkInOrder]
  generalize ({} : Tally) = tally
  induction found generalizing tally with
  | nil => rfl
  | cons d rest ih =>
      by_cases asks : d.disposition = .check
      · rw [goThrough_check asks rfl]
        cases stop && !(c.file d.path).value.isValid with
        | true => exact readAsRecorded_file d.path
        | false => exact (readAsRecorded_file d.path).append (ih _)
      · rw [goThrough_pass asks]
        have passed : ReadAsRecorded [.recorded (c.recordOf d)] := by
          have unchecked : (c.recordOf d).verdict? = none := by
            rw [c.verdict?_recordOf, if_neg asks]
          rw [ReadAsRecorded, eventsOf_recorded, recordsOf_recorded, pathsChecked, List.filter_cons,
            unchecked]
          rfl
        exact passed.append (ih _)

theorem pathsChecked_recordOf (found : List Discovery) :
    pathsChecked (found.map c.recordOf) = pathsToCheck found := by
  induction found with
  | nil => rfl
  | cons d rest ih =>
      obtain ⟨path, disposition⟩ := d
      cases disposition with
      | foreign => exact ih
      | ignored => exact ih
      | check => exact congrArg (path :: ·) ih

/-- While the verdicts of a batch are dealt out, nothing is logged. -/
theorem eventsOf_batch (stop : Bool) (left : List FileVerdict) (tally : Tally)
    (found : List Discovery) :
    eventsOf (goThrough c stop (.batch left) tally found).happened = [] := by
  induction found generalizing left tally with
  | nil => rfl
  | cons d rest ih =>
      by_cases asks : d.disposition = .check
      · cases left with
        | nil => rw [goThrough_over asks rfl]; rfl
        | cons file others =>
            rw [goThrough_check asks rfl]
            split
            · rfl
            · exact ih others _
      · rw [goThrough_pass asks]
        exact ih left _

/-- In a batch, the files are checked first and recorded afterwards. -/
theorem readAsRecorded_checkAsBatch (found : List Discovery) :
    ReadAsRecorded (checkAsBatch c found).happened := by
  have each (paths : List String) :
      filesRead (paths.flatMap fun path => (c.file path).events) = paths := by
    induction paths with
    | nil => rfl
    | cons path rest ih =>
        rw [List.flatMap_cons, filesRead_append, c.filesRead_file, ih]
        rfl
  have all : recordsOf (goThrough c false (.batch (c.batch (pathsToCheck found)).value.files) {}
      found).happened = found.map c.recordOf := by
    rw [recordsOf_goThrough (inStep_batch c found)]
    exact throughFirst_never _
  rw [ReadAsRecorded, checkAsBatch]
  simp only [recordsOf_after]
  rw [recordsOf_logged, List.nil_append, all, pathsChecked_recordOf, Passage.after,
    eventsOf_append, eventsOf_logged _ (fun _ => rfl), eventsOf_batch, List.append_nil,
    Checker.batch, filesRead_append, List.flatMap_map, each]
  exact List.append_nil _

end

section Course

variable [GlobEngine]

/-- A run checks the files that it has a verdict on record for, and no others. -/
theorem readAsRecorded_checkFound (disk : Disk) (setup : Setup) (invocation : Invocation) :
    ReadAsRecorded (checkFound disk setup invocation).happened := by
  have found := ReadAsRecorded.ofEvents
    (filesRead_ofInputs disk setup.config setup.ignore invocation.paths)
  refine found.append ?_
  split
  · exact readAsRecorded_checkInOrder _ _
  · exact readAsRecorded_checkAsBatch _

variable [Config.Decoder] {disk : Disk} {invocation : Invocation}

theorem course_of_error {error : SetupError}
    (failed : (loadSetup disk invocation.config).value = .error error) :
    course disk invocation =
      ⟨Happening.ofEvents (loadSetup disk invocation.config).events, .error error⟩ := by
  rw [course, failed]

theorem course_of_setup {setup : Setup}
    (loaded : (loadSetup disk invocation.config).value = .ok setup) :
    course disk invocation =
      ⟨Happening.ofEvents (loadSetup disk invocation.config).events ++
        (checkFound disk setup invocation).happened,
        .ok (checkFound disk setup invocation).tally⟩ := by
  rw [course, loaded]

theorem recordsOf_course {setup : Setup}
    (loaded : (loadSetup disk invocation.config).value = .ok setup) :
    recordsOf (course disk invocation).happened =
      recordsOf (checkFound disk setup invocation).happened := by
  rw [course_of_setup loaded, recordsOf_append, recordsOf_ofEvents, List.nil_append]

/-- All of a run checks the files that the run has a verdict on record for. -/
theorem readAsRecorded_course (disk : Disk) (invocation : Invocation) :
    ReadAsRecorded (course disk invocation).happened := by
  have settings := ReadAsRecorded.ofEvents (filesRead_loadSetup disk invocation.config)
  cases loaded : (loadSetup disk invocation.config).value with
  | error error =>
      rw [course_of_error loaded]
      exact settings
  | ok setup =>
      rw [course_of_setup loaded]
      exact settings.append (readAsRecorded_checkFound disk setup invocation)

end Course

end CommandLine

end TagCheck
