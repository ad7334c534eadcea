/-
# The events of a scan as a record of what matched

Whoever keeps the events of a scan can tell what was open at any time without the text:
put down what is reported as pushed and strike out the last entry where something is
reported as popped. `replay` does that. What it holds is what the stack held
(`Nesting.Replayed`), which one lexeme after the other keeps up, whether it was met under
the failing policy or under the truncating one, where an opening tag may go unrecorded.

So the events agree with the report in every respect (`scan_events_replay`): a pop strikes
out an entry of its own name, a tag is dropped only on a full stack, and a defect speaks of
the last entry. The elements counted are the pops with a name, and the single tags, of
which no event tells.
-/

import Mathlib.Data.List.Induction
import TagCheck.Proofs.DepthLimit

namespace TagCheck

/-! ## Replaying events -/

/-- What an event does to the tags that are open, innermost last. -/
def replayNext (held : List OpenTag) : Event → List OpenTag
  | .pushed name site => held ++ [⟨name, site⟩]
  | .popped .. => held.dropLast
  | _ => held

/-- The tags that are open after these events. -/
def replay (events : List Event) : List OpenTag := events.foldl replayNext []

/-- What has to be open where an event is reported. -/
def Event.Suits (options : ScanOptions) (held : List OpenTag) : Event → Prop
  | pushed .. => held.length < options.maxDepth
  | popped name _ => ∃ outer openedAt, held = outer ++ [⟨name, openedAt⟩]
  | dropped .. => options.overflow = .truncate ∧ held.length = options.maxDepth
  | _ => True

/-- Events each of which suits what the events before it leave open. -/
def Consistent (options : ScanOptions) (events : List Event) : Prop :=
  ∀ earlier event later, events = earlier ++ event :: later →
    event.Suits options (replay earlier)

theorem replay_concat (events : List Event) (event : Event) :
    replay (events ++ [event]) = replayNext (replay events) event := by
  rw [replay, List.foldl_append]
  rfl

namespace Consistent

variable {options : ScanOptions} {events : List Event} {event : Event}

theorem nil : Consistent options [] := by
  intro earlier event later cut
  exact absurd cut.symm (List.append_ne_nil_of_right_ne_nil _ (List.cons_ne_nil _ _))

theorem concat (consistent : Consistent options events)
    (suits : event.Suits options (replay events)) : Consistent options (events ++ [event]) := by
  intro earlier other later cut
  rcases List.eq_nil_or_concat later with rfl | ⟨between, last, rfl⟩
  · obtain ⟨rfl, same⟩ := List.append_inj' cut rfl
    cases same
    exact suits
  · rw [List.concat_eq_append, ← List.cons_append, ← List.append_assoc] at cut
    obtain ⟨rest, _⟩ := List.append_inj' cut rfl
    exact consistent earlier other between rest

theorem of_append {more : List Event} (consistent : Consistent options (events ++ more)) :
    Consistent options events := by
  intro earlier event later cut
  apply consistent earlier event (later ++ more)
  rw [cut, List.append_assoc, List.cons_append]

/-- No more is open at once than is allowed. -/
theorem length_replay_le (consistent : Consistent options events) :
    (replay events).length ≤ options.maxDepth := by
  induction events using List.reverseRecOn with
  | nil => exact Nat.zero_le _
  | append_singleton events event ih =>
      have before := ih consistent.of_append
      have suits := consistent events event [] rfl
      rw [replay_concat]
      cases event with
      | pushed name site =>
          rw [replayNext, List.length_append]
          exact suits
      | popped name site =>
          rw [replayNext, List.length_dropLast]
          exact Nat.le_trans (Nat.sub_le _ _) before
      | _ => exact before

end Consistent

/-! ## Events beside the nesting -/

/-- The events reported so far give the stack, and each suited the stack it was reported
on. -/
structure Nesting.Replayed (options : ScanOptions) (n : Nesting) : Prop where
  bounded : n.stack.Bounded options
  held : replay n.reported.reverse = n.stack.entries.reverse
  consistent : Consistent options n.reported.reverse

namespace Nesting

variable {options : ScanOptions} {n m : Nesting} {lexeme : Lexeme} {event : Event}

theorem Replayed.start (options : ScanOptions) : (start options).Replayed options :=
  ⟨.start options, rfl, .nil⟩

/-- One more event is reported while the stack comes to hold what the event makes of it. -/
theorem Replayed.reporting (replayed : n.Replayed options) (bounded : m.stack.Bounded options)
    (reported : m.reported = event :: n.reported)
    (suits : event.Suits options n.stack.entries.reverse)
    (held : m.stack.entries.reverse = replayNext n.stack.entries.reverse event) :
    m.Replayed options := by
  refine ⟨bounded, ?_, ?_⟩
  · rw [reported, List.reverse_cons, replay_concat, replayed.held, held]
  · rw [reported, List.reverse_cons]
    apply replayed.consistent.concat
    rwa [replayed.held]

theorem Replayed.meet (replayed : n.Replayed options) (met : n.meet lexeme = .ok m) :
    m.Replayed options := by
  have bounded := bounded_of_meet replayed.bounded met
  cases meets_of_meet met with
  | single alone => exact ⟨bounded, replayed.held, replayed.consistent⟩
  | typeBrackets site rule => exact replayed.reporting bounded rfl trivial rfl
  | recorded opens room entries limit policy =>
      refine replayed.reporting bounded rfl ?_ ?_
      · rw [Event.Suits, List.length_reverse, ← replayed.bounded.limit]
        exact room
      · rw [entries, List.reverse_cons]
        rfl
  | dropped opens full truncates =>
      refine replayed.reporting bounded rfl ⟨?_, ?_⟩ rfl
      · rw [← replayed.bounded.policy, truncates]
      · rw [List.length_reverse]
        exact Nat.le_antisymm replayed.bounded.within (replayed.bounded.limit ▸ full)
  | @closed t stack innermost closes filled named limit policy =>
      refine replayed.reporting bounded rfl ⟨stack.entries.reverse, innermost.site, ?_⟩ ?_
      · rw [filled, List.reverse_cons, ← named]
      · rw [filled, List.reverse_cons, replayNext, List.dropLast_concat]

/-- The last entry of the replay is the innermost open tag. -/
theorem Replayed.concat_of_cons {innermost : OpenTag} {outer : List OpenTag}
    (replayed : n.Replayed options) (filled : n.stack.entries = innermost :: outer) :
    replay n.reported.reverse = outer.reverse ++ [innermost] := by
  rw [replayed.held, filled, List.reverse_cons]

end Nesting

/-! ## Counting -/

/-- Whether an event tells that an element was closed. Fragments have no name. -/
def Event.closesElement : Event → Bool
  | popped name _ => !name.isEmpty
  | _ => false

/-- Whether a lexeme is a tag that is an element on its own. -/
def Lexeme.isSingle : Lexeme → Bool
  | tag t => t.form = .single
  | typeBrackets .. => false

/-- Whether the step that a scanner makes next finds a single tag. -/
def Scanner.findsSingle (options : ScanOptions) (s : Scanner) : Bool :=
  (s.lexer.step options).2.any Lexeme.isSingle

/-- How many single tags a scan comes to, which stops at the first defect. -/
def singlesScanned (options : ScanOptions) (text : Text) : Nat :=
  (Scanner.places options (.start options text)).countP (Scanner.findsSingle options)

theorem Nesting.tagsChecked_of_meet {n m : Nesting} {lexeme : Lexeme}
    (met : n.meet lexeme = .ok m) :
    m.tagsChecked + n.reported.countP Event.closesElement =
      n.tagsChecked + m.reported.countP Event.closesElement + lexeme.isSingle.toNat := by
  cases meets_of_meet met with
  | typeBrackets site rule => rfl
  | single alone =>
      simp only [count, Lexeme.isSingle, alone, decide_true, Bool.toNat_true]
      omega
  | recorded opens | dropped opens =>
      simp [report, Lexeme.isSingle, opens, Event.closesElement]
  | @closed t stack innermost closes =>
      cases unnamed : t.name.isEmpty <;>
        simp [Lexeme.isSingle, closes, Event.closesElement, unnamed]
      omega

/-- Single tags can always be met. -/
theorem Nesting.isSingle_of_meet {n : Nesting} {lexeme : Lexeme} {defect : Defect}
    (failed : n.meet lexeme = .error defect) : lexeme.isSingle = false := by
  cases lexeme with
  | typeBrackets site rule => rfl
  | tag t =>
      rcases meet_eq_error failed with ⟨closes, _⟩ | ⟨opens, _⟩
      · rw [Lexeme.isSingle, closes]
        rfl
      · rw [Lexeme.isSingle, opens]
        rfl

namespace Scanner

variable {options : ScanOptions} {s t : Scanner}

theorem findsSingle_of_end (ended : s.ahead = []) : s.findsSingle options = false := by
  have nothing : (s.lexer.step options).2 = none := by
    have after : s.lexer.cursor.after = [] := ended
    simp only [Lexer.step, after]
  rw [findsSingle, nothing]
  rfl

theorem findsSingle_of_defect {defect : Defect} (stepped : s.step options = (t, some defect)) :
    s.findsSingle options = false := by
  obtain ⟨_, met⟩ := step_eq_iff.mp stepped
  cases found : (s.lexer.step options).2 with
  | none =>
      rw [found] at met
      cases (Prod.mk.inj met).2
  | some lexeme =>
      rw [found, Nesting.meetFound] at met
      split at met
      · cases (Prod.mk.inj met).2
      · rename_i failed
        rw [findsSingle, found]
        exact Nesting.isSingle_of_meet failed

theorem tagsChecked_of_step (stepped : s.step options = (t, none)) :
    t.nesting.tagsChecked + s.nesting.reported.countP Event.closesElement =
      s.nesting.tagsChecked + t.nesting.reported.countP Event.closesElement +
        (s.findsSingle options).toNat := by
  obtain ⟨_, met⟩ := step_eq_iff.mp stepped
  cases found : (s.lexer.step options).2 with
  | none =>
      rw [found] at met
      rw [findsSingle, found, ← (Prod.mk.inj met).1]
      rfl
  | some lexeme =>
      rw [found, Nesting.meetFound] at met
      split at met
      · rename_i settled meets
        rw [findsSingle, found, ← (Prod.mk.inj met).1]
        exact Nesting.tagsChecked_of_meet meets
      · cases (Prod.mk.inj met).2

/-- From any place on, a run counts the elements that it reports as closed and the single
tags that it comes to. -/
theorem run_tagsChecked (s : Scanner) :
    (s.run options).tagsChecked + s.nesting.reported.countP Event.closesElement =
      s.nesting.tagsChecked + (s.run options).events.countP Event.closesElement +
        (places options s).countP (findsSingle options) := by
  fun_induction places options s with
  | case1 s ended =>
      rw [run_of_end ended, List.countP_singleton, findsSingle_of_end ended]
      simp only [Nesting.outcome, List.countP_reverse]
      rfl
  | case2 s ahead next stepped ih =>
      have here := tagsChecked_of_step stepped
      have counted : (s :: places options next).countP (findsSingle options) =
          (places options next).countP (findsSingle options) + (s.findsSingle options).toNat := by
        rw [List.countP_cons]
        cases s.findsSingle options <;> rfl
      rw [run_of_step ahead stepped, counted]
      omega
  | case3 s ahead next defect stepped =>
      obtain ⟨kept, _⟩ := tag_of_step stepped
      rw [run_of_defect ahead stepped, List.countP_singleton, findsSingle_of_defect stepped, kept]
      simp only [Nesting.outcome, List.countP_reverse]
      rfl

theorem Visits.replayed {text : Text} (visits : Visits options text s) :
    s.nesting.Replayed options := by
  induction visits with
  | refl => exact .start options
  | tail _ steps ih =>
      rcases steps.nesting_cases with same | ⟨lexeme, met⟩
      · rw [same]
        exact ih
      · exact ih.meet met

/-- A scan ends with what the end of the text leaves open, or with a tag that cannot be
met. -/
theorem scan_ends (options : ScanOptions) (text : Text) :
    ∃ s, Visits options text s ∧
      (scan options text = s.nesting.outcome s.nesting.stack.finish ∨
        ∃ t defect, s.nesting.meet (.tag t) = .error defect ∧
          scan options text = s.nesting.outcome (some defect)) := by
  rw [← run_start]
  rcases run_ends options (start options text) with
    ⟨s, reaches, ended⟩ | ⟨defect, t, stops⟩
  · exact ⟨s, reaches, .inl (by rw [reaches.run_eq, run_of_end ended])⟩
  · have whole := stops.run_eq
    obtain ⟨s, reaches, _, stepped⟩ := stops
    obtain ⟨kept, _, _, _, failed⟩ := tag_of_step stepped
    exact ⟨s, reaches, .inr ⟨_, defect, failed, by rw [whole, kept]⟩⟩

end Scanner

/-! ## What the events tell about the report -/

/-- A defect that speaks of the right entry: the last one held, where it speaks of any. -/
def Defect.Cites (held : List OpenTag) : Defect → Prop
  | unclosed name site others => ∃ outer, held = outer ++ [⟨name, site⟩] ∧ others = held.length - 1
  | mismatch expected openedAt .. => ∃ outer, held = outer ++ [⟨expected, openedAt⟩]
  | unmatchedClose .. => held = []
  | _ => True

namespace Nesting.Replayed

variable {options : ScanOptions} {n : Nesting}

theorem cites_finish (replayed : n.Replayed options) {defect : Defect}
    (left : n.stack.finish = some defect) : defect.Cites (replay n.reported.reverse) := by
  rw [TagStack.finish_eq, Option.map_eq_some_iff] at left
  obtain ⟨innermost, first, rfl⟩ := left
  obtain ⟨outer, filled⟩ := List.head?_eq_some_iff.mp first
  refine ⟨outer.reverse, replayed.concat_of_cons filled, ?_⟩
  rw [replayed.held, List.length_reverse]

theorem cites_meet (replayed : n.Replayed options) {t : Tag} {defect : Defect}
    (failed : n.meet (.tag t) = .error defect) : defect.Cites (replay n.reported.reverse) := by
  rcases meet_eq_error failed with ⟨_, ⟨nothing, rfl⟩ | ⟨_, outer, filled, rfl⟩⟩ | ⟨_, _, rfl⟩
  · rw [replayed.held, nothing]
    rfl
  · exact ⟨outer.reverse, replayed.concat_of_cons filled⟩
  · trivial

end Nesting.Replayed

/-- Whatever the policy at the limit, the events of a scan are a faithful record of what
matched. Replayed from nothing, every pop finds an entry of its name to strike out, no more
is held than the limit allows, and a tag is dropped only under the truncating policy with
that many held. Nothing is held at the end of a scan without a defect; a defect cites what
is held last, and a closing tag without a match is met with nothing held. The elements
counted are the pops of elements and the single tags that the scan came to. -/
theorem scan_events_replay (options : ScanOptions) (text : Text) :
    let outcome := scan options text
    let held := replay outcome.events
    (∀ earlier name site later, outcome.events = earlier ++ .popped name site :: later →
      ∃ outer openedAt, replay earlier = outer ++ [⟨name, openedAt⟩]) ∧
    (∀ earlier, earlier <+: outcome.events → (replay earlier).length ≤ options.maxDepth) ∧
    (∀ earlier name site later, outcome.events = earlier ++ .dropped name site :: later →
      options.overflow = .truncate ∧ (replay earlier).length = options.maxDepth) ∧
    (outcome.defect = none → held = []) ∧
    (∀ name site others, outcome.defect = some (.unclosed name site others) →
      ∃ outer, held = outer ++ [⟨name, site⟩] ∧ others = held.length - 1) ∧
    (∀ expected openedAt found site span,
      outcome.defect = some (.mismatch expected openedAt found site span) →
        ∃ outer, held = outer ++ [⟨expected, openedAt⟩]) ∧
    (∀ name site span, outcome.defect = some (.unmatchedClose name site span) → held = []) ∧
    outcome.tagsChecked =
      outcome.events.countP Event.closesElement + singlesScanned options text := by
  intro outcome held
  obtain ⟨s, visits, ends⟩ := Scanner.scan_ends options text
  have replayed := Scanner.Visits.replayed visits
  have events : outcome.events = s.nesting.reported.reverse := by
    rcases ends with same | ⟨_, _, _, same⟩ <;> exact congrArg Outcome.events same
  have consistent : Consistent options outcome.events := events ▸ replayed.consistent
  have cites : ∀ defect, outcome.defect = some defect → defect.Cites held := by
    intro defect found
    change Defect.Cites (replay outcome.events) defect
    rw [events]
    rcases ends with same | ⟨t, other, failed, same⟩
    · exact replayed.cites_finish ((congrArg Outcome.defect same).symm.trans found)
    · cases (congrArg Outcome.defect same).symm.trans found
      exact replayed.cites_meet failed
  refine ⟨?_, ?_, ?_, ?_, ?_, ?_, ?_, ?_⟩
  · intro earlier name site later cut
    exact consistent earlier _ later cut
  · rintro earlier ⟨later, cut⟩
    exact Consistent.length_replay_le (Consistent.of_append (cut ▸ consistent))
  · intro earlier name site later cut
    exact consistent earlier _ later cut
  · intro accepted
    change replay outcome.events = []
    rw [events, replayed.held, List.reverse_eq_nil_iff]
    rcases ends with same | ⟨_, _, _, same⟩
    · have finished := (congrArg Outcome.defect same).symm.trans accepted
      change s.nesting.stack.finish = none at finished
      rwa [TagStack.finish_eq, Option.map_eq_none_iff, List.head?_eq_none_iff] at finished
    · cases (congrArg Outcome.defect same).symm.trans accepted
  · intro name site others found
    exact cites _ found
  · intro expected openedAt found site span crossed
    exact cites _ crossed
  · intro name site span found
    exact cites _ found
  · have counted : ((Scanner.start options text).run options).tagsChecked + 0 =
        0 + ((Scanner.start options text).run options).events.countP Event.closesElement +
          singlesScanned options text := Scanner.run_tagsChecked _
    rwa [Scanner.run_start, Nat.add_zero, Nat.zero_add] at counted

theorem scan_events_replay_truncated :
    let options : ScanOptions := { maxDepth := 1, overflow := .truncate }
    let text : Text := "<br><a><b></b>".toUTF8.toList
    let outcome := scan options text
    outcome.events = [.pushed "a" ⟨4, 1, 5⟩] ++ [.dropped "b" ⟨7, 1, 8⟩] ∧
      (replay [.pushed "a" ⟨4, 1, 5⟩]).length = options.maxDepth ∧
      outcome.defect = some (.mismatch "a" ⟨4, 1, 5⟩ "b" ⟨10, 1, 11⟩ ⟨10, 4⟩) ∧
      (∃ outer, replay outcome.events = outer ++ [⟨"a", ⟨4, 1, 5⟩⟩]) ∧
      outcome.tagsChecked = 0 + singlesScanned options text := by
  intro options text outcome
  have events : outcome.events = [.pushed "a" ⟨4, 1, 5⟩] ++ [.dropped "b" ⟨7, 1, 8⟩] := by
    decide +kernel
  have crossed : outcome.defect = some (.mismatch "a" ⟨4, 1, 5⟩ "b" ⟨10, 1, 11⟩ ⟨10, 4⟩) := by
    decide +kernel
  obtain ⟨_, _, full, _, _, cited, _, counted⟩ := scan_events_replay options text
  have noneClosed : outcome.events.countP Event.closesElement = 0 := by
    rw [events]
    rfl
  refine ⟨events, (full _ _ _ [] events).2, crossed, cited _ _ _ _ _ crossed, ?_⟩
  rw [← noneClosed]
  exact counted

end TagCheck
