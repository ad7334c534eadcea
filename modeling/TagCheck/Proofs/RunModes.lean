/-
# One report, whatever the mode

A run checks the files it has found as a batch, one by one to the end, or one by one up to
the first defect. Which of them is a matter of settings (`RunMode`); the report is not. What a
run can say about a path it has found depends on that path alone (`Checker.recordOf`). A run
in any mode lists these records in the order of the paths, and ends behind the first failure
if it is to stop there (`recordsOf_checkFound`).

A batch hands its verdicts back without the paths that were not to be checked, and the run
deals them out again. What carries the proofs is that the verdicts left are those on the paths
left that are to be checked (`Supply.InStep`). Each verdict then meets the path it belongs to,
and there are enough of them (`not_runsOut`). What each path keeps of a tally, a run keeps
(`checkFound_keeps`).
-/

import TagCheck.CommandLine.Run
import TagCheck.Proofs.Batches
import TagCheck.Proofs.Tallies

namespace TagCheck

/-- What a run can say about a path it has found. -/
def Checker.recordOf (c : Checker) (found : Discovery) : CommandLine.Record :=
  ⟨found.path, match found.disposition with
    | .foreign => .skipped
    | .ignored => .ignored
    | .check => .checked (c.file found.path).value⟩

theorem Checker.verdict?_recordOf (c : Checker) (found : Discovery) :
    (c.recordOf found).verdict? =
      if found.disposition = .check then some (c.file found.path).value else none := by
  obtain ⟨path, disposition⟩ := found
  cases disposition <;> rfl

theorem Checker.isFailure_recordOf (c : Checker) {found : Discovery}
    (asks : found.disposition = .check) :
    (c.recordOf found).isFailure = !(c.file found.path).value.isValid := by
  rw [CommandLine.Record.isFailure, c.verdict?_recordOf, if_pos asks]
  rfl

namespace CommandLine

/-- The records among the things that happened. -/
def recordsOf (happened : List Happening) : List Record := happened.filterMap (·.record?)

variable (c : Checker)

theorem recordsOf_append (first second : List Happening) :
    recordsOf (first ++ second) = recordsOf first ++ recordsOf second :=
  List.filterMap_append

/-- What is logged is not on record. -/
theorem recordsOf_logged (entry : Event → Log.Entry) (events : List Event) :
    recordsOf (events.map fun event => .logged (entry event)) = [] := by
  rw [recordsOf, List.filterMap_map, List.filterMap_eq_nil_iff]
  intro event _
  rfl

theorem recordsOf_ofEvents (events : List Event) :
    recordsOf (Happening.ofEvents events) = [] :=
  recordsOf_logged _ events

/-- Logging and then making a record makes that record. -/
theorem recordsOf_here (events : List Event) (record : Record) :
    recordsOf (Happening.ofEvents events ++ [.recorded record]) = [record] := by
  rw [recordsOf_append, recordsOf_ofEvents]
  rfl

theorem recordsOf_recorded (record : Record) : recordsOf [.recorded record] = [record] := rfl

/-- What happened before a passage is on record before it. -/
theorem recordsOf_after (here : List Happening) (p : Passage) :
    recordsOf (p.after here).happened = recordsOf here ++ recordsOf p.happened :=
  recordsOf_append here p.happened

theorem tally_after (here : List Happening) (p : Passage) : (p.after here).tally = p.tally := rfl

/-! ## One path -/

section Step

variable {c} {stop : Bool} {supply left : Supply} {tally : Tally} {d : Discovery}
  {rest : List Discovery}

/-- A path that is not checked is put on record. -/
theorem goThrough_pass (asksNot : d.disposition ≠ .check) :
    goThrough c stop supply tally (d :: rest) =
      (goThrough c stop supply (tally.pass (c.recordOf d)) rest).after
        [.recorded (c.recordOf d)] := by
  obtain ⟨path, disposition⟩ := d
  cases disposition with
  | check => exact absurd rfl asksNot
  | ignored => rfl
  | foreign => rfl

/-- A path to be checked is put on record with the next verdict. Behind that the run goes on,
unless it has to stop. -/
theorem goThrough_check (asks : d.disposition = .check) {checked : Logged Verdict}
    (next : supply.next? c d.path = some (checked, left)) :
    goThrough c stop supply tally (d :: rest) =
      let here := Happening.ofEvents checked.events ++ [.recorded ⟨d.path, .checked checked.value⟩]
      let tally := tally.check d.path checked.value
      if stop && !checked.value.isValid then ⟨here, tally⟩
      else (goThrough c stop left tally rest).after here := by
  rw [goThrough, asks, next]

/-- Without a next verdict the run is over. -/
theorem goThrough_over (asks : d.disposition = .check) (none : supply.next? c d.path = none) :
    goThrough c stop supply tally (d :: rest) = ⟨[], tally⟩ := by
  rw [goThrough, asks, none]

end Step

/-! ## In step -/

/-- What is left of a batch are the verdicts on the paths ahead that are to be checked. -/
def Supply.InStep (found : List Discovery) : Supply → Prop
  | .oneByOne => True
  | .batch left => left = (pathsToCheck found).map c.fileVerdict

theorem pathsToCheck_cons (d : Discovery) (rest : List Discovery) :
    pathsToCheck (d :: rest) =
      if d.disposition = .check then d.path :: pathsToCheck rest else pathsToCheck rest := by
  obtain ⟨path, disposition⟩ := d
  cases disposition <;> rfl

section InStep

variable {c} {stop : Bool} {supply : Supply} {tally : Tally} {d : Discovery}
  {found rest : List Discovery}

theorem Supply.InStep.pass (inStep : supply.InStep c (d :: rest))
    (asksNot : d.disposition ≠ .check) : supply.InStep c rest := by
  cases supply with
  | oneByOne => trivial
  | batch left => rwa [InStep, pathsToCheck_cons, if_neg asksNot] at inStep

/-- In step, the next verdict is that on the path whose turn it is. -/
theorem Supply.InStep.check (inStep : supply.InStep c (d :: rest)) (asks : d.disposition = .check) :
    ∃ (events : List Event) (left : Supply),
      supply.next? c d.path = some (⟨(c.file d.path).value, events⟩, left) ∧
        left.InStep c rest := by
  cases supply with
  | oneByOne => exact ⟨(c.file d.path).events, .oneByOne, rfl, trivial⟩
  | batch left =>
      rw [InStep, pathsToCheck_cons, if_pos asks] at inStep
      subst inStep
      exact ⟨[], _, rfl, rfl⟩

/-- A run in step records every path through the first at which it has to stop. -/
theorem recordsOf_goThrough (inStep : supply.InStep c found) :
    recordsOf (goThrough c stop supply tally found).happened =
      throughFirst (fun r => stop && r.isFailure) (found.map c.recordOf) := by
  induction found generalizing supply tally with
  | nil => rfl
  | cons d rest ih =>
      rw [List.map_cons, throughFirst_cons]
      by_cases asks : d.disposition = .check
      · obtain ⟨events, left, next, still⟩ := inStep.check asks
        have record : (⟨d.path, .checked (c.file d.path).value⟩ : Record) = c.recordOf d := by
          rw [Checker.recordOf, asks]
        rw [goThrough_check asks next, c.isFailure_recordOf asks, record]
        cases stop && !(c.file d.path).value.isValid with
        | true => exact recordsOf_here _ _
        | false =>
            simp only [Bool.false_eq_true, if_false, recordsOf_after, recordsOf_here, ih still]
            rfl
      · have fine : (c.recordOf d).isFailure = false :=
          Record.isFailure_of_unchecked (by rw [c.verdict?_recordOf, if_neg asks])
        rw [goThrough_pass asks, fine, Bool.and_false, ← ih (inStep.pass asks)]
        rfl

/-- What is kept by every path is kept by a run in step. -/
theorem goThrough_keeps {Kept : Tally → Prop}
    (passes : ∀ t r, r.verdict? = none → Kept t → Kept (t.pass r))
    (checks : ∀ t path, Kept t → Kept (t.check path (c.file path).value))
    (inStep : supply.InStep c found) (kept : Kept tally) :
    Kept (goThrough c stop supply tally found).tally := by
  induction found generalizing supply tally with
  | nil => exact kept
  | cons d rest ih =>
      by_cases asks : d.disposition = .check
      · obtain ⟨events, left, next, still⟩ := inStep.check asks
        rw [goThrough_check asks next]
        cases stop && !(c.file d.path).value.isValid with
        | true => exact checks tally d.path kept
        | false => exact ih still (checks tally d.path kept)
      · rw [goThrough_pass asks]
        have unchecked : (c.recordOf d).verdict? = none := by
          rw [c.verdict?_recordOf, if_neg asks]
        exact ih (inStep.pass asks) (passes tally _ unchecked kept)

end InStep

/-- What a run has on record in the end is what it had before and what it put on record,
whichever verdicts it was supplied with. -/
theorem records_goThrough (stop : Bool) (supply : Supply) (tally : Tally)
    (found : List Discovery) :
    (goThrough c stop supply tally found).tally.records =
      tally.records ++ recordsOf (goThrough c stop supply tally found).happened := by
  induction found generalizing supply tally with
  | nil => exact (List.append_nil _).symm
  | cons d rest ih =>
      by_cases asks : d.disposition = .check
      · cases next : supply.next? c d.path with
        | none =>
            rw [goThrough_over asks next]
            exact (List.append_nil _).symm
        | some taken =>
            obtain ⟨checked, left⟩ := taken
            rw [goThrough_check asks next]
            cases stop && !checked.value.isValid with
            | true => simp [recordsOf_here]
            | false => simp [recordsOf_after, tally_after, recordsOf_here, ih]
      · rw [goThrough_pass asks, recordsOf_after, tally_after, ih, recordsOf_recorded,
          Tally.records_pass, List.append_assoc]

/-! ## As a batch -/

/-- A path that is to be checked finds no verdict left. -/
inductive RunsOut : List FileVerdict → List Discovery → Prop where
  | here {d : Discovery} {rest : List Discovery} (asks : d.disposition = .check) :
      RunsOut [] (d :: rest)
  | passing {verdicts : List FileVerdict} {d : Discovery} {rest : List Discovery}
      (asksNot : d.disposition ≠ .check) (later : RunsOut verdicts rest) :
      RunsOut verdicts (d :: rest)
  | taking {verdict : FileVerdict} {verdicts : List FileVerdict} {d : Discovery}
      {rest : List Discovery} (asks : d.disposition = .check) (later : RunsOut verdicts rest) :
      RunsOut (verdict :: verdicts) (d :: rest)

/-- Paths go without a record exactly where verdicts run out. -/
theorem runsOut_iff {verdicts : List FileVerdict} {found : List Discovery} (tally : Tally) :
    RunsOut verdicts found ↔
      (recordsOf (goThrough c false (.batch verdicts) tally found).happened).length <
        found.length := by
  induction found generalizing verdicts tally with
  | nil => exact ⟨nofun, nofun⟩
  | cons d rest ih =>
      by_cases asks : d.disposition = .check
      · cases verdicts with
        | nil =>
            rw [goThrough_over asks rfl]
            exact iff_of_true (.here asks) (Nat.succ_pos _)
        | cons verdict others =>
            rw [goThrough_check asks rfl]
            simp only [Bool.false_and, Bool.false_eq_true, if_false, recordsOf_after,
              recordsOf_here, List.singleton_append, List.length_cons, Nat.succ_lt_succ_iff, ← ih]
            refine ⟨?_, .taking asks⟩
            rintro (_ | ⟨asksNot, _⟩ | ⟨_, later⟩)
            · exact absurd asks asksNot
            · exact later
      · rw [goThrough_pass asks, recordsOf_after, recordsOf_recorded, List.singleton_append,
          List.length_cons, List.length_cons, Nat.succ_lt_succ_iff, ← ih]
        refine ⟨?_, .passing asks⟩
        rintro (asks' | ⟨_, later⟩ | ⟨asks', _⟩)
        · exact absurd asks' asks
        · exact later
        · exact absurd asks' asks

/-- The verdicts of a batch are in step with its own paths. -/
theorem inStep_batch (found : List Discovery) :
    (Supply.batch (c.batch (pathsToCheck found)).value.files).InStep c found :=
  c.batch_files _

/-- A batch never runs out of verdicts on its own paths. -/
theorem not_runsOut (found : List Discovery) :
    ¬ RunsOut (c.batch (pathsToCheck found)).value.files found := by
  rw [runsOut_iff c {}, recordsOf_goThrough (inStep_batch c found)]
  simp only [Bool.false_and]
  rw [throughFirst_never, List.length_map]
  exact Nat.lt_irrefl _

/-! ## A whole run -/

section

variable [GlobEngine] (disk : Disk) (setup : Setup) (invocation : Invocation)

/-- What a run finds for the paths of its call. -/
def foundBy : List Discovery :=
  (Discovery.ofInputs disk setup.config setup.ignore invocation.paths).value

/-- How a run checks a file. -/
def checkerOf : Checker := ⟨disk.source, setup.config.scanOptions⟩

/-- After some things that are not on record, a run is one pass in step through what it has
found. -/
theorem checkFound_eq :
    ∃ (before : List Happening) (supply : Supply),
      recordsOf before = [] ∧
      supply.InStep (checkerOf disk setup) (foundBy disk setup invocation) ∧
      checkFound disk setup invocation =
        (goThrough (checkerOf disk setup) (invocation.stop || setup.config.stops) supply {}
          (foundBy disk setup invocation)).after before := by
  let found := Discovery.ofInputs disk setup.config setup.ignore invocation.paths
  let checked := (checkerOf disk setup).batch (pathsToCheck found.value)
  by_cases inOrder : ((invocation.stop || setup.config.stops) || !setup.config.isParallel) = true
  · refine ⟨Happening.ofEvents found.events, .oneByOne, recordsOf_ofEvents _, trivial, ?_⟩
    rw [checkFound, if_pos inOrder]
    rfl
  · -- Files are checked as a batch only if nothing can end the run early.
    have runsOn : (invocation.stop || setup.config.stops) = false :=
      (Bool.or_eq_false_iff.mp (eq_false_of_ne_true inOrder)).1
    refine ⟨Happening.ofEvents found.events ++ checked.events.map fun event =>
      .logged ⟨event, some ⟨(pathsToCheck found.value).length⟩⟩, .batch checked.value.files, ?_,
      inStep_batch _ _, ?_⟩
    · rw [recordsOf_append, recordsOf_ofEvents, recordsOf_logged]
      rfl
    · rw [checkFound, if_neg inOrder, runsOn]
      simp only [checkAsBatch, Passage.after, List.append_assoc]
      rfl

/-- A run records the paths it has found, each on its own, through the first at which it has
to stop. -/
theorem recordsOf_checkFound :
    recordsOf (checkFound disk setup invocation).happened =
      throughFirst (fun r => (invocation.stop || setup.config.stops) && r.isFailure)
        ((foundBy disk setup invocation).map (checkerOf disk setup).recordOf) := by
  obtain ⟨before, supply, silent, inStep, run⟩ := checkFound_eq disk setup invocation
  rw [run, recordsOf_after, silent, List.nil_append, recordsOf_goThrough inStep]

/-- What is true of an empty tally and kept by every path is true in the end. -/
theorem checkFound_keeps {Kept : Tally → Prop}
    (passes : ∀ t r, r.verdict? = none → Kept t → Kept (t.pass r))
    (checks : ∀ t path, Kept t →
      Kept (t.check path ((checkerOf disk setup).file path).value))
    (empty : Kept {}) : Kept (checkFound disk setup invocation).tally := by
  obtain ⟨before, supply, _, inStep, run⟩ := checkFound_eq disk setup invocation
  rw [run, tally_after]
  exact goThrough_keeps passes checks inStep empty

/-- What a run has kept in the end are the records it has made. -/
theorem records_checkFound :
    (checkFound disk setup invocation).tally.records =
      recordsOf (checkFound disk setup invocation).happened := by
  obtain ⟨before, supply, silent, _, run⟩ := checkFound_eq disk setup invocation
  rw [run, tally_after, recordsOf_after, silent, records_goThrough]
  rfl

/-- The totals of a run are those of its records. -/
theorem settled_checkFound : (checkFound disk setup invocation).tally.Settled :=
  checkFound_keeps disk setup invocation (fun _ _ unchecked settled => settled.pass unchecked)
    (fun _ path settled => settled.check path _) .empty

end

/-- A run that stops early has one failure if there is any. -/
theorem failureCount_throughFirst (records : List Record) :
    failureCount (throughFirst Record.isFailure records) = min 1 (failureCount records) := by
  induction records with
  | nil => rfl
  | cons record rest ih =>
      rw [throughFirst_cons]
      cases failing : record.isFailure with
      | true => simp [failureCount, failing]
      | false => simpa [failureCount, failing] using ih

/-- Stopping early does not change how a run exits. -/
theorem exitStatus_throughFirst (records : List Record) :
    exitStatus (throughFirst Record.isFailure records) = exitStatus records := by
  rw [exitStatus, exitStatus, failureCount_throughFirst]
  exact if_congr (by omega) rfl rfl

/-- The verdicts in the records are those on the checked files one by one. -/
theorem verdicts_of_records (stop : Bool) (found : List Discovery) :
    (throughFirst (fun r => stop && r.isFailure) (found.map c.recordOf)).filterMap (·.verdict?) =
      (throughFirst (fun path => stop && c.fails path) (pathsToCheck found)).map
        fun path => (c.file path).value := by
  induction found with
  | nil => rfl
  | cons d rest ih =>
      rw [List.map_cons, throughFirst_cons, pathsToCheck_cons]
      by_cases asks : d.disposition = .check
      · have verdict : (c.recordOf d).verdict? = some (c.file d.path).value := by
          rw [c.verdict?_recordOf, if_pos asks]
        have failing : (c.recordOf d).isFailure = c.fails d.path := by
          rw [Record.isFailure, verdict]
          rfl
        rw [if_pos asks, throughFirst_cons, List.map_cons, List.filterMap_cons_some verdict,
          failing]
        cases stop && c.fails d.path with
        | true => rfl
        | false => exact congrArg _ ih
      · have verdict : (c.recordOf d).verdict? = none := by rw [c.verdict?_recordOf, if_neg asks]
        have fine : (c.recordOf d).isFailure = false := by
          rw [Record.isFailure, verdict]
          rfl
        rw [if_neg asks, List.filterMap_cons_none verdict, fine, Bool.and_false]
        exact ih

/-! ## Modes -/

/-- How a run goes about its files: what the configuration says about that, and whether the
call asks to stop. -/
structure RunMode where
  parallel : Option Bool := none
  stopOnFirstError : Option Bool := none
  stop : Bool := false

/-- Whether the first defect ends a run. -/
def RunMode.stops (m : RunMode) : Bool := m.stop || m.stopOnFirstError.getD false

/-- The same settings for a run in another mode. -/
def Setup.inMode [GlobEngine] (s : Setup) (m : RunMode) : Setup where
  config := { s.config with parallel := m.parallel, stopOnFirstError := m.stopOnFirstError }
  ignore := s.ignore

/-- The same call for a run in another mode. -/
def Invocation.inMode (i : Invocation) (m : RunMode) : Invocation := { i with stop := m.stop }

section

variable [GlobEngine] (disk : Disk) (setup : Setup) (invocation : Invocation)

/-- What a run in a given mode does with what it finds. -/
def passageIn (m : RunMode) : Passage := checkFound disk (setup.inMode m) (invocation.inMode m)

/-- The records of a run in a given mode. -/
def recordsIn (m : RunMode) : List Record := recordsOf (passageIn disk setup invocation m).happened

theorem recordsIn_eq (m : RunMode) :
    recordsIn disk setup invocation m =
      throughFirst (fun r => m.stops && r.isFailure)
        ((foundBy disk setup invocation).map (checkerOf disk setup).recordOf) :=
  recordsOf_checkFound disk (setup.inMode m) (invocation.inMode m)

theorem recordsIn_of_whole {m : RunMode} (whole : m.stops = false) :
    recordsIn disk setup invocation m =
      (foundBy disk setup invocation).map (checkerOf disk setup).recordOf := by
  rw [recordsIn_eq, whole]
  exact throughFirst_never _

theorem recordsIn_of_stops {m : RunMode} (stops : m.stops = true) :
    recordsIn disk setup invocation m =
      throughFirst Record.isFailure
        ((foundBy disk setup invocation).map (checkerOf disk setup).recordOf) := by
  rw [recordsIn_eq, stops]
  rfl

/-- The summary of a run is the verdict on the checked files, taken one by one. -/
theorem summary_recordsIn (m : RunMode) :
    summary (recordsIn disk setup invocation m) =
      ((checkerOf disk setup).files m.stops
        (pathsToCheck (foundBy disk setup invocation))).value := by
  rw [recordsIn_eq, summary, verdicts_of_records, Checker.files_eq]

/-- What a run keeps is settled by its records. -/
theorem tally_passageIn (m : RunMode) :
    let tally := (passageIn disk setup invocation m).tally
    let records := recordsIn disk setup invocation m
    tally.records = records ∧ tally.summary = summary records ∧
      tally.errors = failureCount records := by
  intro tally records
  have kept : tally.records = records :=
    records_checkFound disk (setup.inMode m) (invocation.inMode m)
  have settled : tally.Settled :=
    settled_checkFound disk (setup.inMode m) (invocation.inMode m)
  exact ⟨kept, kept ▸ settled.summary, kept ▸ settled.errors⟩

variable [Config.Decoder] {disk setup invocation}

/-- A call whose settings can be loaded takes the course of a run with these settings. -/
theorem course_of_loaded {m : RunMode} {call : Invocation} (paths : call.paths = invocation.paths)
    (stop : call.stop = m.stop)
    (loaded : (loadSetup disk call.config).value = .ok (setup.inMode m)) :
    (course disk call).outcome = .ok (passageIn disk setup invocation m).tally ∧
      recordsOf (course disk call).happened = recordsIn disk setup invocation m := by
  have same : checkFound disk (setup.inMode m) call = passageIn disk setup invocation m := by
    rw [passageIn, checkFound, checkFound, paths, stop]
    rfl
  rw [course, loaded]
  simp only [same]
  refine ⟨trivial, ?_⟩
  rw [recordsOf_append, recordsOf_ofEvents, List.nil_append]
  rfl

/-- Its exit status is that of the records. -/
theorem status_of_loaded [Json.Writer] {m : RunMode} {call : Invocation}
    (surroundings : Circumstances) (paths : call.paths = invocation.paths)
    (stop : call.stop = m.stop)
    (loaded : (loadSetup disk call.config).value = .ok (setup.inMode m)) :
    (runCheck surroundings disk call).status =
      exitStatus (recordsIn disk setup invocation m) := by
  have outcome := (course_of_loaded paths stop loaded).1
  have errors := (tally_passageIn disk setup invocation m).2.2
  rw [runCheck, resultOf, outcome, exitStatus, ← errors]
  rfl

end

/-- A run makes the same report in every mode. Unless the first defect ends it, its records
are the same whether files are checked as a batch or one by one, and so are summary, number
of failures and exit status; a batch always has a verdict for the next file. If the first
defect ends it, its records are those of a run to the end through the first failure, with the
summary and the number of failures of these, and the exit status is that of the run to the
end. The summary is the verdict on the checked files one by one. In every mode the run keeps
just these records, and the totals it keeps up on the way are theirs. All of this holds of
calls of the program, whichever way their settings come about. -/
theorem report_same_in_every_mode [GlobEngine] [Config.Decoder] [Json.Writer] (disk : Disk)
    (setup : Setup) (invocation : Invocation) :
    let records := recordsIn disk setup invocation
    let tally := fun m => (passageIn disk setup invocation m).tally
    let found := foundBy disk setup invocation
    let checker := checkerOf disk setup
    (∀ m n : RunMode, m.stops = false → n.stops = false →
      records m = records n ∧ summary (records m) = summary (records n) ∧
        failureCount (records m) = failureCount (records n) ∧
        exitStatus (records m) = exitStatus (records n)) ∧
    ¬ RunsOut (checker.batch (pathsToCheck found)).value.files found ∧
    (∀ m n : RunMode, m.stops = true → n.stops = false →
      let segment := throughFirst Record.isFailure (records n)
      records m = segment ∧ summary (records m) = summary segment ∧
        failureCount (records m) = failureCount segment ∧
        exitStatus (records m) = exitStatus (records n)) ∧
    (∀ m : RunMode, summary (records m) = (checker.files m.stops (pathsToCheck found)).value) ∧
    (∀ m : RunMode, (tally m).records = records m ∧ (tally m).summary = summary (records m) ∧
      (tally m).errors = failureCount (records m)) ∧
    ∀ (m : RunMode) (call : Invocation) (surroundings : Circumstances),
      call.paths = invocation.paths → call.stop = m.stop →
      (loadSetup disk call.config).value = .ok (setup.inMode m) →
      (course disk call).outcome = .ok (tally m) ∧
        recordsOf (course disk call).happened = records m ∧
        (runCheck surroundings disk call).status = exitStatus (records m) := by
  intro records tally found checker
  refine ⟨?_, not_runsOut checker found, ?_, summary_recordsIn disk setup invocation,
    tally_passageIn disk setup invocation, ?_⟩
  · intro m n whole whole'
    have same : records m = records n :=
      (recordsIn_of_whole _ _ _ whole).trans (recordsIn_of_whole _ _ _ whole').symm
    exact ⟨same, congrArg summary same, congrArg failureCount same, congrArg exitStatus same⟩
  · intro m n stops whole segment
    have front : records m = segment :=
      calc
        records m = throughFirst Record.isFailure (found.map checker.recordOf) :=
          recordsIn_of_stops _ _ _ stops
        _ = throughFirst Record.isFailure (records n) :=
          congrArg _ (recordsIn_of_whole _ _ _ whole).symm
    refine ⟨front, congrArg summary front, congrArg failureCount front, ?_⟩
    rw [front]
    exact exitStatus_throughFirst _
  · intro m call surroundings paths stop loaded
    obtain ⟨outcome, records⟩ := course_of_loaded paths stop loaded
    exact ⟨outcome, records, status_of_loaded surroundings paths stop loaded⟩

theorem report_same_in_every_mode_mixed :
    let disk := Disk.ofFiles [
      (".tsxcheckignore", "old*.tsx".toUTF8.toList), ("README.md", []),
      ("a.tsx", "<br>".toUTF8.toList), ("old.tsx", "<x>".toUTF8.toList),
      ("b.tsx", "<p></q>".toUTF8.toList), ("c.tsx", "<p>".toUTF8.toList)]
    let call : Invocation := { paths := ["README.md", "a.tsx", "old.tsx", "b.tsx", "c.tsx"] }
    let setup := (loadSetup disk none).value.toOption.getD ⟨Config.unset, .empty⟩
    let asBatch : RunMode := { parallel := some true }
    let inOrder : RunMode := { parallel := some false }
    let stopping : RunMode := { stop := true }
    asBatch.stops = false ∧ inOrder.stops = false ∧ stopping.stops = true ∧
      (loadSetup disk none).value = .ok (setup.inMode stopping) ∧
      recordsIn disk setup call asBatch = recordsIn disk setup call inOrder ∧
      failureCount (recordsIn disk setup call inOrder) = 2 ∧
      (recordsIn disk setup call stopping).map (·.path) =
        ["README.md", "a.tsx", "old.tsx", "b.tsx"] ∧
      (runCheck {} disk { call with stop := true }).status = 1 := by
  intro disk call setup asBatch inOrder stopping
  have unset : setup.config = (setup.inMode stopping).config := by decide +kernel
  have usable : (loadSetup disk none).value.toOption.isSome = true := by decide +kernel
  have own : setup.inMode stopping = setup :=
    congrArg (fun config => Setup.mk config setup.ignore) unset.symm
  have loaded : (loadSetup disk none).value = .ok (setup.inMode stopping) := by
    rw [own]
    show (loadSetup disk none).value = .ok ((loadSetup disk none).value.toOption.getD _)
    cases value : (loadSetup disk none).value with
    | ok ready => rfl
    | error problem => simp [value, Except.toOption] at usable
  have failures : failureCount (recordsIn disk setup call inOrder) = 2 := by decide +kernel
  have front : (throughFirst Record.isFailure (recordsIn disk setup call inOrder)).map (·.path) =
      ["README.md", "a.tsx", "old.tsx", "b.tsx"] := by decide +kernel
  obtain ⟨toTheEnd, _, stopped, _, _, real⟩ := report_same_in_every_mode disk setup call
  obtain ⟨records, _, _, status⟩ := stopped stopping inOrder rfl rfl
  refine ⟨rfl, rfl, rfl, loaded, (toTheEnd asBatch inOrder rfl rfl).1, failures, ?_, ?_⟩
  · rw [records, front]
  · obtain ⟨_, _, exits⟩ := real stopping { call with stop := true } {} rfl rfl loaded
    rw [exits, status, exitStatus, failures]
    rfl

end CommandLine

end TagCheck
