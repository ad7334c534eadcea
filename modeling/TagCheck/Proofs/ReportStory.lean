/-
# Two reports, one story

A report of text and a report in JSON are made from the same records by functions that have
nothing in common. Here a report in JSON is told over: what its records and its totals say is
put in the words of a report of text (`storyLine`, `storySummary`), from the fields of the
report alone. The words are those that the program itself prints (`text_tells_what_json_tells`),
on both outputs and in the same order.

A call can ask for fewer words and for other looks. It then still checks the same
(`Invocation.SameCheck`), and exits the same way.
-/

import TagCheck.Proofs.FilesRead
import TagCheck.Proofs.ReportFields

namespace TagCheck.CommandLine

/-! ## Telling a report in JSON over -/

/-- The place of an error, as it is put behind a path; nothing if the error has none. -/
def placeStory (error : Json.Value) : String :=
  match error.naturalAt? "line", error.naturalAt? "column" with
  | some line, some column => ":" ++ (toString line ++ ":" ++ toString column)
  | _, _ => ""

/-- The line of text that a record in JSON stands for. -/
def storyLine (file : Json.Value) : Option OutputLine :=
  match file.textAt? "path", file.textAt? "status" with
  | some path, some "ok" =>
      (file.naturalAt? "tags").map fun tags =>
        .out ("✓" ++ " " ++ path ++ " (" ++ toString tags ++ " tags)")
  | some path, some "ignored" => some (.out ("⊘" ++ " " ++ path ++ " (ignored)"))
  | some path, some "error" =>
      (file.field? "error").bind fun error =>
        (error.textAt? "message").map fun message =>
          .err ("✗" ++ " " ++ path ++ placeStory error ++ ": " ++ message)
  | some path, some "skipped" => some (.err ("Skipping non-TSX file: " ++ path))
  | _, _ => none

/-- The line that sums a report in JSON up, after a run that took so long. -/
def storySummary (report : Json.Value) (elapsed : Nat) : Option String :=
  match report.naturalAt? "filesChecked", report.naturalAt? "tagsChecked",
      report.naturalAt? "errors" with
  | some files, some tags, some errors =>
      some ("Checked " ++ toString files ++ " files, " ++ toString tags ++ " tags in " ++
        seconds elapsed ++ "s" ++
        if errors > 0 then " - " ++ toString errors ++ " error(s) found" else "")
  | _, _, _ => none

theorem placeStory_defectJson (defect : Defect) :
    placeStory (defectJson defect) =
      match defect.position with
      | some position => ":" ++ position.display
      | none => "" := by
  have coordinate (pick : Position → Nat) :
      (match defect.position with
        | some position => Json.Value.natural (pick position)
        | none => .null).natural? = defect.position.map pick := by
    cases defect.position with
    | none => rfl
    | some position => exact Json.Value.natural?_natural _
  have line : (defectJson defect).naturalAt? "line" = defect.position.map (·.line) :=
    coordinate (·.line)
  have column : (defectJson defect).naturalAt? "column" = defect.position.map (·.column) :=
    coordinate (·.column)
  rw [placeStory, line, column]
  cases defect.position <;> rfl

/-- Summing a report in JSON up gives the summary of the report of text. -/
theorem storySummary_reportJson (t : Tally) (elapsed elapsed' : Nat) :
    storySummary (reportJson t elapsed) elapsed' = some (summaryLine t elapsed') := by
  have natural (n : Nat) := Json.Value.natural?_natural n
  have files : (reportJson t elapsed).naturalAt? "filesChecked" =
    some t.summary.filesChecked := natural _
  have tags : (reportJson t elapsed).naturalAt? "tagsChecked" =
    some t.summary.tagsChecked := natural _
  have errors : (reportJson t elapsed).naturalAt? "errors" = some t.errors := natural _
  rw [storySummary, files, tags, errors]
  rfl

/-- A style without colors and without snippets. -/
structure Style.Plain (s : Style) : Prop where
  uncolored : s.colored = false
  unexplained : s.snippets = false

section Records

variable {s : Style} (path : String) {verdict : Verdict}

theorem storyLine_skipped : storyLine (recordJson ⟨path, .skipped⟩) =
    some (.err ("Skipping non-TSX file: " ++ path)) := rfl

theorem storyLine_ignored : storyLine (recordJson ⟨path, .ignored⟩) =
    some (.out ("⊘" ++ " " ++ path ++ " (ignored)")) := rfl

theorem storyLine_ok (valid : verdict.defect = none) :
    storyLine (recordJson ⟨path, .checked verdict⟩) =
      some (.out ("✓" ++ " " ++ path ++ " (" ++ toString verdict.tagsChecked ++ " tags)")) := by
  have status : Record.status ⟨path, .checked verdict⟩ = "ok" := by
    simp only [Record.status, Record.isFailure_eq, Record.defect?, Record.verdict?,
      Option.bind_some, valid]
    rfl
  rw [storyLine, recordJson_path, recordJson_status, status, recordJson_tags]
  rfl

theorem storyLine_error {defect : Defect} (found : verdict.defect = some defect) :
    storyLine (recordJson ⟨path, .checked verdict⟩) =
      some (.err ("✗" ++ " " ++ path ++ placeStory (defectJson defect) ++ ": " ++
        defect.message)) := by
  have own : Record.defect? ⟨path, .checked verdict⟩ = some defect := found
  have status : Record.status ⟨path, .checked verdict⟩ = "error" := by
    simp only [Record.status, Record.isFailure_eq, own]
    rfl
  rw [storyLine, recordJson_path, recordJson_status, status, recordJson_error, own]
  rfl

theorem Style.Plain.paint (plain : s.Plain) (color text : String) : s.paint color text = text := by
  rw [Style.paint, plain.uncolored]
  rfl

theorem defectLines_of_plain (plain : s.Plain) (shown : List OutputLine) (defect : Defect) :
    s.defectLines shown path defect = [.err ("✗" ++ " " ++ path ++ placeStory (defectJson defect) ++
      ": " ++ defect.message)] := by
  rw [Style.defectLines, plain.paint, plain.unexplained, placeStory_defectJson]
  rfl

/-- A record is told over as it is reported. -/
theorem recordLines_of_loud (plain : s.Plain) (loud : s.quiet = false)
    (shownAt : String → Defect → List OutputLine) (r : Record) :
    s.recordLines shownAt r = (storyLine (recordJson r)).toList := by
  obtain ⟨path, finding⟩ := r
  cases finding with
  | skipped =>
      rw [storyLine_skipped, Style.recordLines, loud]
      rfl
  | ignored =>
      rw [storyLine_ignored, Style.recordLines, loud, plain.paint]
      rfl
  | checked verdict =>
      rw [Style.recordLines]
      cases found : verdict.defect with
      | some defect =>
          rw [storyLine_error path found]
          simp only [found, defectLines_of_plain path plain, Option.toList_some]
      | none =>
          rw [storyLine_ok path found]
          simp only [found, loud, plain.paint, Bool.false_eq_true, if_false, Option.toList_some]

/-- A quiet report has the same words for failures, and none for anything else. -/
theorem recordLines_of_quiet (plain : s.Plain) (quiet : s.quiet = true)
    (shownAt : String → Defect → List OutputLine) (r : Record) :
    s.recordLines shownAt r = if r.isFailure then (storyLine (recordJson r)).toList else [] := by
  obtain ⟨path, finding⟩ := r
  cases finding with
  | skipped =>
      rw [Style.recordLines, quiet]
      rfl
  | ignored =>
      rw [Style.recordLines, quiet]
      rfl
  | checked verdict =>
      have own : Record.defect? ⟨path, .checked verdict⟩ = verdict.defect := rfl
      rw [Style.recordLines, Record.isFailure_eq, own]
      cases found : verdict.defect with
      | some defect =>
          rw [storyLine_error path found]
          simp only [found, defectLines_of_plain path plain]
          rfl
      | none =>
          simp only [found, quiet]
          rfl

end Records

/-! ## Calls that check the same -/

/-- Two calls check the same: they differ in what is shown and how. -/
structure Invocation.SameCheck (a b : Invocation) : Prop where
  paths : a.paths = b.paths
  stop : a.stop = b.stop
  config : a.config = b.config

theorem course_of_sameCheck [GlobEngine] [Config.Decoder] {disk : Disk} {a b : Invocation}
    (same : a.SameCheck b) : course disk a = course disk b := by
  simp only [course, checkFound, same.paths, same.stop, same.config]

/-- How a call exits does not depend on what is shown. -/
theorem status_of_sameCheck [GlobEngine] [Config.Decoder] [Json.Writer] {disk : Disk}
    {a b : Invocation} (same : a.SameCheck b) (c c' : Circumstances) :
    (runCheck c disk a).status = (runCheck c' disk b).status := by
  rw [runCheck, runCheck, course_of_sameCheck same, resultOf, resultOf]
  cases (course disk b).outcome <;> rfl

/-- Nothing is logged, nothing is in color, and nothing is explained. -/
structure Plainly (c : Circumstances) (call : Invocation) : Prop where
  unlogged : c.logSettings = (none, [])
  style : (c.style call).Plain

/-- If nothing is logged, a run with a report of text prints the lines of its records. -/
theorem linesBefore_of_unlogged [Json.Writer] {c : Circumstances}
    (unlogged : c.logSettings = (none, [])) (source : Source) {style : Style}
    (text : style.format = .text) (happened : List Happening) :
    linesBefore c source style happened =
      (recordsOf happened).flatMap (style.recordLines (shownIn c source)) := by
  rw [linesBefore, unlogged, List.map_nil, List.nil_append]
  induction happened with
  | nil => rfl
  | cons happening rest ih =>
      cases happening with
      | logged entry => exact ih
      | recorded record =>
          rw [List.flatMap_cons, ih, happeningLines, text]
          rfl

/-! ## The story of a report -/

section Story

variable (records : List Record)

theorem story_of_records :
    (records.map recordJson).filterMap storyLine =
      records.flatMap fun r => (storyLine (recordJson r)).toList := by
  rw [List.filterMap_map, List.filterMap_eq_flatMap_toList]
  rfl

theorem failures_of_records :
    ((records.map recordJson).filter (hasStatus ["error"])).filterMap storyLine =
      records.flatMap fun r => if r.isFailure then (storyLine (recordJson r)).toList else [] := by
  induction records with
  | nil => rfl
  | cons r rest ih =>
      rw [List.map_cons, List.flatMap_cons, List.filter_cons, hasStatus_error, ← ih]
      cases r.isFailure with
      | true =>
          rw [if_pos rfl, if_pos rfl, List.filterMap_cons]
          cases storyLine (recordJson r) <;> rfl
      | false => rfl

/-- Failures go to the error output. -/
theorem channel_of_failures :
    ∀ line ∈ ((records.map recordJson).filter (hasStatus ["error"])).filterMap storyLine,
      line.channel = .err := by
  intro line among
  obtain ⟨file, listed, told⟩ := List.mem_filterMap.mp among
  obtain ⟨recorded, fails⟩ := List.mem_filter.mp listed
  obtain ⟨⟨path, finding⟩, _, rfl⟩ := List.mem_map.mp recorded
  rw [hasStatus_error] at fails
  cases finding with
  | checked verdict =>
      rw [Record.isFailure_eq] at fails
      obtain ⟨defect, found⟩ := Option.isSome_iff_exists.mp fails
      rw [storyLine_error path found] at told
      cases told
      rfl
  | _ => cases fails

end Story

theorem onChannel_of_same {channel : Channel} {printed : List OutputLine}
    (same : ∀ line ∈ printed, line.channel = channel) :
    onChannel channel printed = printed.map (·.text) := by
  rw [onChannel, List.filter_eq_self.mpr fun line among => beq_iff_eq.mpr (same line among)]

/-- The lines at the end of a report of text that is not in color. -/
theorem summaryLines_of_plain {s : Style} (plain : s.Plain) (t : Tally) (elapsed : Nat) :
    s.summaryLines t elapsed =
      if s.quiet && t.errors = 0 then [] else [.out "", .out (summaryLine t elapsed)] := by
  simp only [Style.summaryLines, plain.paint]

section Runs

variable [GlobEngine] [Config.Decoder] [Json.Writer] {c : Circumstances} {disk : Disk}
  {run : Invocation} {tally : Tally}

/-- What a run prints in a report of text without colors, if nothing is logged. -/
theorem runCheck_of_plainly (kept : (course disk run).outcome = .ok tally)
    (text : run.format = .text) (plain : Plainly c run) :
    runCheck c disk run = Result.ofLines tally.exitStatus
      ((recordsOf (course disk run).happened).flatMap
          ((c.style run).recordLines (shownIn c disk.source)) ++
        if run.quiet && tally.errors = 0 then []
        else [.out "", .out (summaryLine tally c.elapsed)]) := by
  have format : (c.style run).format = .text := text
  have closing := summaryLines_of_plain plain.style tally c.elapsed
  rw [runCheck_of_tally kept, linesBefore_of_unlogged plain.unlogged disk.source format,
    closingLines, format]
  exact congrArg (fun closing => Result.ofLines tally.exitStatus
    ((recordsOf (course disk run).happened).flatMap
      ((c.style run).recordLines (shownIn c disk.source)) ++ closing)) closing

/-- A loud run prints the story of the records, then the totals. -/
theorem printed_of_loud (kept : (course disk run).outcome = .ok tally)
    (text : run.format = .text) (plain : Plainly c run) (loud : run.quiet = false) :
    let story := ((recordsOf (course disk run).happened).map recordJson).filterMap storyLine
    (runCheck c disk run).output =
        lines (onChannel .out story ++ ["", summaryLine tally c.elapsed]) ∧
      (runCheck c disk run).errors = lines (onChannel .err story) := by
  intro story
  have told : (recordsOf (course disk run).happened).flatMap
      ((c.style run).recordLines (shownIn c disk.source)) = story := by
    rw [funext (recordLines_of_loud plain.style loud _), ← story_of_records]
  rw [runCheck_of_plainly kept text plain, ofLines_eq, loud, told, onChannel_append,
    onChannel_append]
  exact ⟨rfl, congrArg lines (List.append_nil _)⟩

/-- A quiet run prints the failures, then the totals if there are any. -/
theorem printed_of_quiet (kept : (course disk run).outcome = .ok tally)
    (text : run.format = .text) (plain : Plainly c run) (quiet : run.quiet = true) :
    let files := (recordsOf (course disk run).happened).map recordJson
    let failures := (files.filter (hasStatus ["error"])).filterMap storyLine
    (runCheck c disk run).output =
        (if tally.errors > 0 then lines ["", summaryLine tally c.elapsed] else "") ∧
      (runCheck c disk run).errors = lines (failures.map (·.text)) := by
  intro files failures
  have told : (recordsOf (course disk run).happened).flatMap
      ((c.style run).recordLines (shownIn c disk.source)) = failures := by
    rw [funext (recordLines_of_quiet plain.style quiet _), ← failures_of_records]
  have onErr : onChannel .err failures = failures.map (·.text) :=
    onChannel_of_same (channel_of_failures _)
  have notOut : onChannel .out failures = [] :=
    onChannel_of_other fun line among same => by
      rw [channel_of_failures _ line among] at same
      cases same
  rw [runCheck_of_plainly kept text plain, ofLines_eq, quiet, told, onChannel_append,
    onChannel_append, onErr, notOut]
  by_cases clean : tally.errors = 0
  · have none : ¬ tally.errors > 0 := by omega
    rw [if_neg none, if_pos (by rw [clean]; rfl)]
    exact ⟨rfl, congrArg lines (List.append_nil _)⟩
  · have some : tally.errors > 0 := by omega
    rw [if_pos some, if_neg (by simpa using clean)]
    exact ⟨rfl, congrArg lines (List.append_nil _)⟩

end Runs

theorem storyLine_isSome (r : Record) : (storyLine (recordJson r)).isSome := by
  obtain ⟨path, finding⟩ := r
  cases finding with
  | checked verdict =>
      cases found : verdict.defect with
      | some defect => rw [storyLine_error path found]; rfl
      | none => rw [storyLine_ok path found]; rfl
  | _ => rfl

/-- What a run prints as text is what a report in JSON tells that has these files, so many
errors and these totals. -/
structure Retold (run : Invocation) (printed : Result) (files : List Json.Value) (errors : Nat)
    (total : String) : Prop where
  loud : run.quiet = false →
    printed.output = lines (onChannel .out (files.filterMap storyLine) ++ ["", total]) ∧
      printed.errors = lines (onChannel .err (files.filterMap storyLine))
  /-- Only the errors are left, and the totals if there are any. -/
  quiet : run.quiet = true →
    printed.output = (if errors > 0 then lines ["", total] else "") ∧
      printed.errors =
        lines (((files.filter (hasStatus ["error"])).filterMap storyLine).map (·.text))

/-- A report of text and a report in JSON tell the same story, and what is to be shown does not
matter to anything else. Of calls that check the same, those that ask for JSON print one
report, which is that of the records of the run and of what the run has counted, and whose
every file has a story. Those that ask for text retell it with its totals: the files on both
outputs, each in order. All of them exit the same way. -/
theorem text_tells_what_json_tells [GlobEngine] [Config.Decoder] [Json.Writer] (disk : Disk)
    (call : Invocation) {setup : Setup}
    (loaded : (loadSetup disk call.config).value = .ok setup) :
    ∃ tally : Tally, (course disk call).outcome = .ok tally ∧
      tally.records = recordsOf (course disk call).happened ∧
      let report := reportJson tally
      ∃ (files : List Json.Value) (errors : Nat),
        (∀ elapsed, (report elapsed).field? "files" = some (.array files) ∧
          (report elapsed).naturalAt? "errors" = some errors) ∧
        (∀ file ∈ files, (storyLine file).isSome) ∧
        (∀ c run, run.SameCheck call → run.format = .json →
          (runCheck c disk run).output = Json.Writer.text (report c.elapsed) ++ "\n" ∧
            (Json.Writer.Lawful →
              Json.IsText (runCheck c disk run).output.toList (report c.elapsed))) ∧
        (∀ c run, run.SameCheck call → run.format = .text → Plainly c run →
          ∃ total, (∀ elapsed, storySummary (report elapsed) c.elapsed = some total) ∧
            Retold run (runCheck c disk run) files errors total) ∧
        (∀ c c' run run', run.SameCheck call → run'.SameCheck call →
          (runCheck c disk run).status = (runCheck c' disk run').status) := by
  let tally := (checkFound disk setup call).tally
  have kept : (course disk call).outcome = .ok tally := by rw [course_of_setup loaded]
  have own : tally.records = recordsOf (course disk call).happened := by
    rw [recordsOf_course loaded]
    exact records_checkFound disk setup call
  have keptBy {run : Invocation} (same : run.SameCheck call) :
      (course disk run).outcome = .ok tally := by rw [course_of_sameCheck same, kept]
  have recordsBy {run : Invocation} (same : run.SameCheck call) :
      recordsOf (course disk run).happened = tally.records := by
    rw [course_of_sameCheck same, own]
  refine ⟨tally, kept, own, tally.records.map recordJson, tally.errors, ?_, ?_, ?_, ?_, ?_⟩
  · exact fun elapsed => ⟨rfl, Json.Value.natural?_natural _⟩
  · intro file among
    obtain ⟨record, _, rfl⟩ := List.mem_map.mp among
    exact storyLine_isSome record
  · intro c run same json
    have printed := output_of_json (c := c) (keptBy same) json
    exact ⟨printed, fun writes => printed ▸ isText_report writes tally c.elapsed⟩
  · intro c run same text plain
    refine ⟨summaryLine tally c.elapsed,
      fun elapsed => storySummary_reportJson tally elapsed c.elapsed, ?_, ?_⟩
    · intro loud
      have printed := printed_of_loud (keptBy same) text plain loud
      rwa [recordsBy same] at printed
    · intro quiet
      have printed := printed_of_quiet (keptBy same) text plain quiet
      rwa [recordsBy same] at printed
  · intro c c' run run' same same'
    exact (status_of_sameCheck same c c).trans (status_of_sameCheck same' c' c).symm

theorem text_tells_what_json_tells_mixed :
    let call : Invocation := { paths := mixedPaths, color := .never }
    let printed := runCheck {} mixedDisk call
    let quietly := runCheck {} mixedDisk { call with quiet := true }
    let asJson := runCheck {} mixedDisk { call with format := .json }
    let total := "Checked 2 files, 1 tags in 0.000s - 1 error(s) found"
    let failure := "✗ b.tsx:1:4: Mismatched tags: expected </p> (opened at line 1) but found </q>"
    (loadSetup mixedDisk none).value.toBool = true ∧
      asJson.output = lines mixedReport ∧
      printed.output = lines ["✓ a.tsx (1 tags)", "⊘ old.tsx (ignored)", "", total] ∧
      printed.errors = lines ["Skipping non-TSX file: README.md", failure] ∧
      quietly.output = lines ["", total] ∧ quietly.errors = lines [failure] ∧
      printed.status = asJson.status := by
  intro call printed quietly asJson total failure
  have usable : (loadSetup mixedDisk none).value.toBool = true := by decide +kernel
  refine ⟨usable, ?_⟩
  cases loaded : (loadSetup mixedDisk none).value with
  | error error => rw [loaded] at usable; cases usable
  | ok setup =>
      obtain ⟨tally, kept, _, files, errors, listed, _, reported, retold, statuses⟩ :=
        text_tells_what_json_tells mixedDisk call loaded
      have own : (course mixedDisk call).outcome.toOption = some mixedTally := by decide +kernel
      rw [kept] at own
      obtain rfl : tally = mixedTally := Option.some.inj own
      obtain rfl : mixedTally.records.map recordJson = files := by
        have field : some (Json.Value.array (mixedTally.records.map recordJson)) =
          some (.array files) := (listed 0).1
        injection Option.some.inj field
      obtain rfl : errors = mixedTally.errors := by
        have counted : some mixedTally.errors = some errors :=
          (Json.Value.natural?_natural _).symm.trans (listed 0).2
        exact (Option.some.inj counted).symm
      have plain : ({} : Style).Plain := ⟨rfl, rfl⟩
      -- a number is not read back by computation, so the stories are those of the records
      have told : (mixedTally.records.map recordJson).filterMap storyLine =
          [.err "Skipping non-TSX file: README.md", .out "✓ a.tsx (1 tags)",
            .out "⊘ old.tsx (ignored)", .err failure] := by
        rw [story_of_records, ← funext (recordLines_of_loud plain rfl fun _ _ => [])]
        decide +kernel
      have failures : ((mixedTally.records.map recordJson).filter
          (hasStatus ["error"])).filterMap storyLine = [.err failure] := by
        have plain' : ({ quiet := true } : Style).Plain := ⟨rfl, rfl⟩
        rw [failures_of_records, ← funext (recordLines_of_quiet plain' rfl fun _ _ => [])]
        decide +kernel
      have summed : storySummary (reportJson mixedTally 0) 0 = some total := by
        rw [storySummary_reportJson]
        decide +kernel
      obtain ⟨json, _⟩ := reported {} { call with format := .json } ⟨rfl, rfl, rfl⟩ rfl
      obtain ⟨_, own, loudly⟩ := retold {} call ⟨rfl, rfl, rfl⟩ rfl ⟨rfl, rfl, rfl⟩
      obtain rfl := Option.some.inj (summed.symm.trans (own 0))
      obtain ⟨_, own', silently⟩ := retold {} { call with quiet := true } ⟨rfl, rfl, rfl⟩ rfl
        ⟨rfl, rfl, rfl⟩
      obtain rfl := Option.some.inj (summed.symm.trans (own' 0))
      obtain ⟨output, complaints⟩ := loudly.loud rfl
      obtain ⟨output', complaints'⟩ := silently.quiet rfl
      rw [told] at output complaints
      rw [failures] at complaints'
      exact ⟨json.trans text_mixedTally, output, complaints, output', complaints',
        statuses {} {} call { call with format := .json } ⟨rfl, rfl, rfl⟩ ⟨rfl, rfl, rfl⟩⟩

end TagCheck.CommandLine
