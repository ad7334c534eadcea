/-
# Reading a report back

A report in JSON is a value with named fields. Here its fields are looked up by name, as a
reader of the report would, and it is said what they hold: of each record the path, a word
for what became of it, and the tags and the defect if it was checked; of the whole report
the records and the totals.

What a run prints is a text of its report, if the writer is lawful (`isText_report`): all
numbers in a report are numbers, and the line end behind it is a blank.
-/

import Mathlib
import TagCheck.CommandLine.Run
import TagCheck.Proofs.JsonWriting
import TagCheck.Proofs.Tallies

namespace TagCheck

namespace Json.Value

/-- The value of the first field with this name. -/
def field? (name : String) : Value → Option Value
  | object fields => fields.lookup name
  | _ => none

def text? : Value → Option String
  | string text => some text
  | _ => none

/-- The number that a value stands for, if it is a natural number. -/
def natural? : Value → Option Nat
  | number text => text.toNat?
  | _ => none

/-- A natural number is read back from its digits. -/
theorem natural?_natural (n : Nat) : (natural n).natural? = some n := Nat.toNat?_repr n

/-- The text of a field. -/
def textAt? (name : String) (value : Value) : Option String := (value.field? name).bind (·.text?)

/-- The number in a field. -/
def naturalAt? (name : String) (value : Value) : Option Nat :=
  (value.field? name).bind (·.natural?)

end Json.Value

namespace CommandLine

/-- The word for what became of a path. -/
def Record.status (r : Record) : String :=
  match r.finding with
  | .skipped => "skipped"
  | .ignored => "ignored"
  | .checked _ => if r.isFailure then "error" else "ok"

section Fields

variable (r : Record)

/-- A record has a path and a status; what was checked has tags, and what has a defect has
an error. -/
theorem recordJson_eq :
    recordJson r = .object ([("path", .string r.path), ("status", .string r.status)] ++
      (r.verdict?.map fun v => ("tags", Json.Value.natural v.tagsChecked)).toList ++
      (r.defect?.map fun d => ("error", defectJson d)).toList) := by
  obtain ⟨path, finding⟩ := r
  cases finding with
  | skipped => rfl
  | ignored => rfl
  | checked verdict =>
      have defect : Record.defect? ⟨path, .checked verdict⟩ = verdict.defect := rfl
      simp only [recordJson, Record.status, Record.isFailure_eq, defect]
      cases verdict.defect <;> rfl

theorem recordJson_path : (recordJson r).textAt? "path" = some r.path := by
  rw [recordJson_eq]
  rfl

theorem recordJson_status : (recordJson r).textAt? "status" = some r.status := by
  rw [recordJson_eq]
  rfl

theorem recordJson_tags :
    (recordJson r).naturalAt? "tags" = r.verdict?.map (·.tagsChecked) := by
  rw [recordJson_eq]
  cases r.verdict? with
  | none => cases r.defect? <;> rfl
  | some verdict => exact Json.Value.natural?_natural _

theorem recordJson_error : (recordJson r).field? "error" = r.defect?.map defectJson := by
  rw [recordJson_eq]
  cases r.verdict? with
  | none => cases r.defect? <;> rfl
  | some verdict => cases r.defect? <;> rfl

end Fields

/-- Whether a record of a report in JSON has one of these words for its status. -/
def hasStatus (words : List String) (file : Json.Value) : Bool :=
  (file.textAt? "status").any words.contains

theorem hasStatus_recordJson (words : List String) (r : Record) :
    hasStatus words (recordJson r) = words.contains r.status := by
  rw [hasStatus, recordJson_status]
  rfl

theorem hasStatus_error (r : Record) : hasStatus ["error"] (recordJson r) = r.isFailure := by
  rw [hasStatus_recordJson, Record.status]
  obtain ⟨path, finding⟩ := r
  cases finding with
  | checked verdict => cases failing : Record.isFailure ⟨path, .checked verdict⟩ <;> rfl
  | _ => rfl

theorem hasStatus_checked (r : Record) :
    hasStatus ["ok", "error"] (recordJson r) = r.verdict?.isSome := by
  rw [hasStatus_recordJson, Record.status]
  obtain ⟨path, finding⟩ := r
  cases finding with
  | checked verdict => cases Record.isFailure ⟨path, .checked verdict⟩ <;> rfl
  | _ => rfl

/-! ## Two outputs -/

/-- The lines that go to one of the outputs. -/
def onChannel (channel : Channel) (printed : List OutputLine) : List String :=
  (printed.filter (·.channel == channel)).map (·.text)

theorem ofLines_eq (status : Nat) (printed : List OutputLine) :
    Result.ofLines status printed =
      ⟨status, lines (onChannel .out printed), lines (onChannel .err printed)⟩ := rfl

theorem onChannel_append (channel : Channel) (first second : List OutputLine) :
    onChannel channel (first ++ second) = onChannel channel first ++ onChannel channel second := by
  rw [onChannel, List.filter_append, List.map_append]
  rfl

theorem onChannel_of_other {channel : Channel} {printed : List OutputLine}
    (other : ∀ line ∈ printed, line.channel ≠ channel) : onChannel channel printed = [] := by
  rw [onChannel, List.map_eq_nil_iff, List.filter_eq_nil_iff]
  exact fun line among same => other line among (beq_iff_eq.mp same)

theorem channel_err (texts : List String) :
    ∀ line ∈ texts.map OutputLine.err, line.channel ≠ .out := by
  intro line among
  obtain ⟨text, _, rfl⟩ := List.mem_map.mp among
  exact nofun

theorem lines_singleton (text : String) : lines [text] = text ++ "\n" := by
  simp [lines, String.join]

/-! ## Reports as texts -/

/-- A time in seconds is written as a number. -/
theorem isNumber_seconds (milliseconds : Nat) :
    Json.IsNumber (secondsNumber milliseconds).toList := by
  rw [secondsNumber]
  split
  · have fraction : Json.IsDigits ['0'] :=
      ⟨List.cons_ne_nil _ _, List.forall_mem_singleton.mpr rfl⟩
    have number : Json.IsNumber ([] ++ ['0'] ++ ['.', '0'] ++ []) :=
      .mk (.inl rfl) .zero (.digits fraction) .none
    exact number
  · exact Json.isNumber_render _ (Nat.pos_of_ne_zero ‹_›)

theorem sound_natural (n : Nat) : (Json.Value.natural n).Sound :=
  .number (Json.isNumber_natural n)

theorem sound_defectJson (defect : Defect) : (defectJson defect).Sound := by
  refine .object ?_
  simp only [List.forall_mem_cons]
  refine ⟨.string _, .string _, ?_, ?_, List.forall_mem_nil _⟩
  -- line and column alike
  all_goals
    split
    · exact sound_natural _
    · exact .null

theorem sound_recordJson (r : Record) : (recordJson r).Sound := by
  rw [recordJson_eq]
  refine .object ?_
  simp only [List.forall_mem_append, List.forall_mem_cons, Option.mem_toList]
  refine ⟨⟨⟨.string _, .string _, List.forall_mem_nil _⟩, ?_⟩, ?_⟩
  · intro field among
    obtain ⟨verdict, _, rfl⟩ := Option.mem_map.mp among
    exact sound_natural _
  · intro field among
    obtain ⟨defect, _, rfl⟩ := Option.mem_map.mp among
    exact sound_defectJson defect

/-- All numbers in a report are numbers. -/
theorem sound_reportJson (t : Tally) (elapsed : Nat) : (reportJson t elapsed).Sound := by
  refine .object ?_
  simp only [List.forall_mem_cons]
  refine ⟨.array fun file among => ?_, sound_natural _, sound_natural _, sound_natural _,
    .number (isNumber_seconds elapsed), List.forall_mem_nil _⟩
  obtain ⟨record, _, rfl⟩ := List.mem_map.mp among
  exact sound_recordJson record

/-- A report with a line end behind it is a text of that report. -/
theorem isText_report [Json.Writer] (writes : Json.Writer.Lawful) (t : Tally) (elapsed : Nat) :
    Json.IsText (Json.Writer.text (reportJson t elapsed) ++ "\n").toList
      (reportJson t elapsed) := by
  obtain ⟨before, written, after, blank, blankAfter, is, whole⟩ :=
    writes.text _ (sound_reportJson t elapsed)
  refine ⟨before, written, after ++ ['\n'], blank, ?_, is, ?_⟩
  · exact List.forall_mem_append.mpr ⟨blankAfter, List.forall_mem_singleton.mpr rfl⟩
  · rw [String.toList_append, whole, List.append_assoc, List.append_assoc]
    rfl

/-! ## What a run prints -/

section

variable [Json.Writer]

/-- What shows a defect in a run. -/
def shownIn (c : Circumstances) (source : Source) : String → Defect → List OutputLine :=
  snippetLines c.logSettings.1 c.drawing source

/-- The lines printed before the end of a run: complaints about what is to be logged, then
what is logged and reported on the way. -/
def linesBefore (c : Circumstances) (source : Source) (style : Style)
    (happened : List Happening) : List OutputLine :=
  c.logSettings.2.map OutputLine.err ++
    happened.flatMap (happeningLines c.logSettings.1 style (shownIn c source))

section

variable [GlobEngine] [Config.Decoder] {c : Circumstances} {disk : Disk} {invocation : Invocation}

theorem runCheck_of_error {error : SetupError}
    (fails : (course disk invocation).outcome = .error error) :
    runCheck c disk invocation = Result.ofLines Result.fatalStatus
      (linesBefore c disk.source (c.style invocation) (course disk invocation).happened ++
        (fatalLines (c.style invocation).colored error).map .err) := by
  rw [runCheck, resultOf, fails]
  rfl

theorem runCheck_of_tally {tally : Tally} (kept : (course disk invocation).outcome = .ok tally) :
    runCheck c disk invocation = Result.ofLines tally.exitStatus
      (linesBefore c disk.source (c.style invocation) (course disk invocation).happened ++
        closingLines (c.style invocation) tally c.elapsed) := by
  rw [runCheck, resultOf, kept]
  rfl

end

/-- On the way a run with a report in JSON prints nothing on the output. -/
theorem onChannel_out_of_json {c : Circumstances} {source : Source} {style : Style}
    (json : style.format = .json) (happened : List Happening) :
    onChannel .out (linesBefore c source style happened) = [] := by
  apply onChannel_of_other
  refine List.forall_mem_append.mpr ⟨channel_err _, ?_⟩
  intro line among
  obtain ⟨happening, _, printed⟩ := List.mem_flatMap.mp among
  cases happening with
  | logged entry => exact channel_err _ line printed
  | recorded record =>
      rw [happeningLines, json] at printed
      cases printed

/-- What a run with a report in JSON prints on the output is the report. -/
theorem output_of_json [GlobEngine] [Config.Decoder] {c : Circumstances} {disk : Disk}
    {invocation : Invocation} {tally : Tally}
    (kept : (course disk invocation).outcome = .ok tally) (json : invocation.format = .json) :
    (runCheck c disk invocation).output =
      Json.Writer.text (reportJson tally c.elapsed) ++ "\n" := by
  have format : (c.style invocation).format = .json := json
  rw [runCheck_of_tally kept, ofLines_eq, onChannel_append, onChannel_out_of_json format,
    List.nil_append, closingLines, format]
  exact lines_singleton _

end

/-! ## A report of everything -/

/-- A disk with a file of every kind: not to be checked, in order, ignored, and with a defect. -/
def mixedDisk : Disk := Disk.ofFiles [
  (".tsxcheckignore", "old*.tsx".toUTF8.toList), ("README.md", []),
  ("a.tsx", "<br>".toUTF8.toList), ("old.tsx", "<x>".toUTF8.toList),
  ("b.tsx", "<p></q>".toUTF8.toList)]

def mixedPaths : List String := ["README.md", "a.tsx", "old.tsx", "b.tsx"]

/-- What a run keeps of it. -/
def mixedTally : Tally :=
  let defect : Defect := .mismatch "p" ⟨0, 1, 1⟩ "q" ⟨3, 1, 4⟩ ⟨3, 4⟩
  { made := [
      ⟨"b.tsx", .checked { defect := some defect, file := some "b.tsx", filesChecked := 1 }⟩,
      ⟨"old.tsx", .ignored⟩,
      ⟨"a.tsx", .checked { file := some "a.tsx", tagsChecked := 1, filesChecked := 1 }⟩,
      ⟨"README.md", .skipped⟩]
    summary :=
      { defect := some defect, file := some "b.tsx", tagsChecked := 1, filesChecked := 2 }
    errors := 1 }

/-- The lines of its report. -/
def mixedReport : List String := [
  "\x7b", "  \"files\": [",
  "    \x7b", "      \"path\": \"README.md\",", "      \"status\": \"skipped\"", "    \x7d,",
  "    \x7b", "      \"path\": \"a.tsx\",", "      \"status\": \"ok\",", "      \"tags\": 1",
  "    \x7d,",
  "    \x7b", "      \"path\": \"old.tsx\",", "      \"status\": \"ignored\"", "    \x7d,",
  "    \x7b", "      \"path\": \"b.tsx\",", "      \"status\": \"error\",", "      \"tags\": 0,",
  "      \"error\": \x7b", "        \"kind\": \"tag_mismatch\",",
  "        \"message\": \"Mismatched tags: expected </p> (opened at line 1) but found </q>\",",
  "        \"line\": 1,", "        \"column\": 4", "      \x7d", "    \x7d",
  "  ],", "  \"filesChecked\": 2,", "  \"tagsChecked\": 1,", "  \"errors\": 1,",
  "  \"elapsedSecs\": 0.0", "\x7d"]

theorem text_mixedTally :
    Json.Writer.text (reportJson mixedTally 0) ++ "\n" = lines mixedReport := by
  decide +kernel

end CommandLine

end TagCheck
