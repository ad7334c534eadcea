/-
# A report agrees with itself

A run keeps three things while it goes through the paths: the records, the verdict on all
files so far, and the number of errors. That they agree is kept by every path
(`Tally.Coherent`), for a path that is checked is checked on its own and bears its name, also
where its verdict comes out of a batch. So they agree in the end, whatever the mode of the run
(`coherent_checkFound`).

The report is made of what is kept, so it agrees with itself: totals, records, the first
defect and the exit status (`json_report_coherent`). What is printed is a text of this report
and of nothing else. If the settings of a project cannot be used, nothing is checked and there
is no report.
-/

import TagCheck.Proofs.FilesRead
import TagCheck.Proofs.ReportFields

namespace TagCheck.CommandLine

/-- However a run comes by its verdicts, what it keeps is coherent. -/
theorem coherent_checkFound [GlobEngine] (disk : Disk) (setup : Setup) (invocation : Invocation) :
    (checkFound disk setup invocation).tally.Coherent :=
  checkFound_keeps disk setup invocation
    (fun _ _ unchecked coherent => coherent.pass unchecked)
    (fun _ _ coherent => coherent.check rfl rfl) .empty

/-- A report in JSON that agrees with itself and with a verdict on everything. -/
structure CoherentReport (report : Json.Value) (files : List Json.Value) (total : Verdict) :
    Prop where
  listed : report.field? "files" = some (.array files)
  filesChecked : report.naturalAt? "filesChecked" =
    some (files.countP (hasStatus ["ok", "error"]))
  tagsChecked : ∃ tags : List Nat,
    (files.filter (hasStatus ["ok", "error"])).map (·.naturalAt? "tags") = tags.map some ∧
      report.naturalAt? "tagsChecked" = some tags.sum
  errors : report.naturalAt? "errors" = some (files.countP (hasStatus ["error"]))
  /-- There is a defect exactly if there are errors. -/
  defect_iff : total.defect.isSome = true ↔ 0 < files.countP (hasStatus ["error"])
  /-- It is that of the first error, with its file. -/
  first : ∀ defect, total.defect = some defect → ∃ first : Record,
    files.find? (hasStatus ["error"]) = some (recordJson first) ∧
      first.defect? = some defect ∧ total.file = some first.path

section Report

/-- What is told by their status are the records with a given property. -/
theorem comp_recordJson {words : List String} {p : Record → Bool}
    (same : ∀ r, hasStatus words (recordJson r) = p r) : hasStatus words ∘ recordJson = p :=
  funext same

theorem tags_recordJson (records : List Record) :
    ((records.map recordJson).filter (hasStatus ["ok", "error"])).map (·.naturalAt? "tags") =
      ((records.filterMap (·.verdict?)).map (·.tagsChecked)).map some := by
  rw [List.filter_map, comp_recordJson hasStatus_checked]
  induction records with
  | nil => rfl
  | cons r rest ih =>
      cases checked : r.verdict? with
      | none =>
          rw [List.filter_cons_of_neg (by simp [checked]), List.filterMap_cons_none checked]
          exact ih
      | some verdict =>
          rw [List.filter_cons_of_pos (by simp [checked]), List.filterMap_cons_some checked,
            List.map_cons, List.map_cons, recordJson_tags, checked, ih]
          rfl

/-- What a coherent tally is reported as agrees with itself. -/
theorem reportJson_coherent {t : Tally} (coherent : t.Coherent) (elapsed : Nat) :
    CoherentReport (reportJson t elapsed) (t.records.map recordJson) t.summary := by
  obtain ⟨filesChecked, tagsChecked, errors, defect, file⟩ := coherent
  have failures : (t.records.map recordJson).countP (hasStatus ["error"]) = t.errors := by
    rw [List.countP_map, comp_recordJson hasStatus_error, errors]
  have firstFailure : (t.records.map recordJson).find? (hasStatus ["error"]) =
      (t.records.find? (·.isFailure)).map recordJson := by
    rw [List.find?_map, comp_recordJson hasStatus_error]
  have natural (n : Nat) := Json.Value.natural?_natural n
  refine ⟨rfl, ?_, ⟨_, tags_recordJson t.records, ?_⟩, ?_, ?_, ?_⟩
  · rw [List.countP_map, comp_recordJson hasStatus_checked, ← filesChecked]
    exact natural _
  · rw [← tagsChecked]
    exact natural _
  · rw [failures]
    exact natural _
  · rw [failures, errors, List.countP_pos_iff, ← List.find?_isSome, defect]
    cases found : t.records.find? (·.isFailure) with
    | none => rfl
    | some first =>
        have fails : first.isFailure = true := List.find?_some found
        rw [Option.bind_some, ← Record.isFailure_eq, fails]
        rfl
  · intro reported found
    rw [found] at defect
    obtain ⟨first, here, own⟩ := Option.bind_eq_some_iff.mp defect.symm
    refine ⟨first, ?_, own, ?_⟩
    · rw [firstFailure, here]
      rfl
    · rw [file, here]
      rfl

end Report

/-- The report of a run in JSON agrees with itself. If the settings of the project can be used,
what is printed is a text of one report, made of what the run has kept: its totals are those of
its records, the summary has the defect of the first error and its file, the exit status tells
whether there are errors, and the files that have been checked are those with a verdict. If the
settings cannot be used, no file is checked, there is no report, and the exit status says so. -/
theorem json_report_coherent [GlobEngine] [Config.Decoder] [Json.Writer]
    (writes : Json.Writer.Lawful) (c : Circumstances) (disk : Disk) (invocation : Invocation)
    (json : invocation.format = .json) :
    let run := runCheck c disk invocation
    let happened := (course disk invocation).happened
    (∀ setup, (loadSetup disk invocation.config).value = .ok setup →
      ∃ tally : Tally, (course disk invocation).outcome = .ok tally ∧
        tally.records = recordsOf happened ∧
        let report := reportJson tally c.elapsed
        let files := tally.records.map recordJson
        run.output = Json.Writer.text report ++ "\n" ∧
        (∀ value, Json.IsText run.output.toList value ↔ value = report) ∧
        CoherentReport report files tally.summary ∧
        run.status = (if 0 < files.countP (hasStatus ["error"]) then 1 else 0) ∧
        filesRead (eventsOf happened) = pathsChecked tally.records) ∧
    (∀ error, (loadSetup disk invocation.config).value = .error error →
      run.status = 2 ∧ run.output = "" ∧ recordsOf happened = [] ∧
        filesRead (eventsOf happened) = []) := by
  intro run happened
  refine ⟨?_, ?_⟩
  · intro setup loaded
    have taken := course_of_setup loaded
    let tally := (checkFound disk setup invocation).tally
    have kept : (course disk invocation).outcome = .ok tally := by rw [taken]
    have own : tally.records = recordsOf happened := by
      change _ = recordsOf (course disk invocation).happened
      rw [recordsOf_course loaded]
      exact records_checkFound disk setup invocation
    have coherent : tally.Coherent := coherent_checkFound disk setup invocation
    have printed : run.output = _ := output_of_json kept json
    have isText := isText_report writes tally c.elapsed
    refine ⟨tally, kept, own, printed, ?_, reportJson_coherent coherent c.elapsed, ?_, ?_⟩
    · intro value
      rw [printed]
      exact ⟨fun text => text.unique isText, fun same => same ▸ isText⟩
    · have exits : run = _ := runCheck_of_tally kept
      rw [exits, ofLines_eq, List.countP_map, comp_recordJson hasStatus_error, ← coherent.errors]
      rfl
    · rw [own]
      exact readAsRecorded_course disk invocation
  · intro error failed
    have fails : (course disk invocation).outcome = .error error := by rw [course_of_error failed]
    have none : recordsOf happened = [] := by
      change recordsOf (course disk invocation).happened = []
      rw [course_of_error failed, recordsOf_ofEvents]
    have printed : run = _ := runCheck_of_error fails
    have format : (c.style invocation).format = .json := json
    refine ⟨by rw [printed]; rfl, ?_, none, ?_⟩
    · rw [printed, ofLines_eq, onChannel_append, onChannel_out_of_json format,
        onChannel_of_other (channel_err _)]
      rfl
    · have read : filesRead (eventsOf happened) = _ := readAsRecorded_course disk invocation
      rw [read]
      change pathsChecked (recordsOf happened) = []
      rw [none]
      rfl

theorem json_report_coherent_mixed :
    let broken := Disk.ofFiles [("tsxcheck.json", "[]".toUTF8.toList), ("a.tsx", [])]
    let call : Invocation := { paths := mixedPaths, format := .json }
    let run := runCheck {} mixedDisk call
    let report := reportJson mixedTally 0
    call.format = .json ∧ (loadSetup mixedDisk none).value.toBool = true ∧
      (loadSetup broken none).value.toBool = false ∧
      run.output = lines mixedReport ∧
      (∀ value, Json.IsText (lines mixedReport).toList value ↔ value = report) ∧
      CoherentReport report (mixedTally.records.map recordJson) mixedTally.summary ∧
      mixedTally.summary.file = some "b.tsx" ∧ run.status = 1 ∧
      filesRead (eventsOf (course mixedDisk call).happened) = ["a.tsx", "b.tsx"] ∧
      (runCheck {} broken call).status = 2 ∧ (runCheck {} broken call).output = "" := by
  intro broken call run report
  have usable : (loadSetup mixedDisk none).value.toBool = true := by decide +kernel
  have unusable : (loadSetup broken none).value.toBool = false := by decide +kernel
  refine ⟨rfl, usable, unusable, ?_⟩
  cases loaded : (loadSetup mixedDisk none).value with
  | error error => rw [loaded] at usable; cases usable
  | ok setup =>
      cases failed : (loadSetup broken none).value with
      | ok setup => rw [failed] at unusable; cases unusable
      | error error =>
          obtain ⟨tally, kept, _, output, isText, coherent, status, read⟩ :=
            (json_report_coherent Json.Writer.lawful {} mixedDisk call rfl).1 setup loaded
          obtain ⟨fatal, silent, _⟩ :=
            (json_report_coherent Json.Writer.lawful {} broken call rfl).2 error failed
          have own : (course mixedDisk call).outcome.toOption = some mixedTally := by
            decide +kernel
          rw [kept] at own
          obtain rfl : tally = mixedTally := Option.some.inj own
          rw [text_mixedTally] at output
          rw [output] at isText
          have failures : (mixedTally.records.map recordJson).countP (hasStatus ["error"]) = 1 := by
            decide +kernel
          have checked : pathsChecked mixedTally.records = ["a.tsx", "b.tsx"] := by decide
          exact ⟨output, isText, coherent, rfl, by rw [status, failures]; rfl, read.trans checked,
            fatal, silent⟩

end TagCheck.CommandLine
