/-
# Scanning in one pass

`scan` finds all lexemes of a text first and settles their nesting afterwards.
Here the two are interleaved: a `Scanner` holds the lexer beside the nesting and
meets each lexeme as soon as it is found, so it stops at a defect with the rest of
the text unread. `run_start` shows that both give the same outcome; that the
lexer does not depend on the nesting is what makes the first form possible.

The one-pass form is where one can speak of a place in a run. `Reaches` relates
the states between steps, without a defect on the way. A run is deterministic and
every step moves on, so it has at most one state at each offset
(`Reaches.eq_of_offset`).
-/

import Mathlib.Data.List.Forall2
import Mathlib.Logic.Relation
import TagCheck.Markup.Nesting
import TagCheck.Proofs.StackLaws
import TagCheck.Proofs.Stride

namespace TagCheck

namespace Lexer

variable (options : ScanOptions)

/-- What holds at the end of a text, and before a step if it holds after it, holds
everywhere. -/
theorem steps_induction {motive : Lexer → Prop}
    (ended : ∀ l : Lexer, l.cursor.after = [] → motive l)
    (stepped : ∀ l : Lexer, l.cursor.after ≠ [] → motive (l.step options).1 → motive l)
    (l : Lexer) : motive l :=
  if atEnd : l.cursor.after = [] then ended l atEnd
  else stepped l atEnd (steps_induction ended stepped (l.step options).1)
termination_by l.cursor.after.length
decreasing_by exact step_shortens options atEnd

/-- The lexemes of the text ahead. -/
def lexemesAhead (l : Lexer) : List Lexeme := lexemesOnto options l []

theorem lexemesOnto_of_end {l : Lexer} (atEnd : l.cursor.after = []) (found : List Lexeme) :
    lexemesOnto options l found = found.reverse := by
  rw [lexemesOnto, dif_pos atEnd]

theorem lexemesOnto_of_ahead {l : Lexer} (ahead : l.cursor.after ≠ []) (found : List Lexeme) :
    lexemesOnto options l found =
      lexemesOnto options (l.step options).1 ((l.step options).2.toList ++ found) := by
  rw [lexemesOnto, dif_neg ahead]
  split
  · rename_i next reached
    rw [reached]
    rfl
  · rename_i next lexeme reached
    rw [reached]
    rfl

theorem lexemesOnto_eq_append (l : Lexer) (found : List Lexeme) :
    lexemesOnto options l found = found.reverse ++ l.lexemesAhead options := by
  induction l using steps_induction options generalizing found with
  | ended l atEnd =>
      rw [lexemesAhead, lexemesOnto_of_end options atEnd, lexemesOnto_of_end options atEnd,
        List.reverse_nil, List.append_nil]
  | stepped l ahead ih =>
      rw [lexemesAhead, lexemesOnto_of_ahead options ahead, lexemesOnto_of_ahead options ahead,
        ih, ih]
      cases (l.step options).2 <;> simp

theorem lexemesAhead_of_end {l : Lexer} (atEnd : l.cursor.after = []) :
    l.lexemesAhead options = [] :=
  lexemesOnto_of_end options atEnd []

theorem lexemesAhead_of_ahead {l : Lexer} (ahead : l.cursor.after ≠ []) :
    l.lexemesAhead options =
      (l.step options).2.toList ++ (l.step options).1.lexemesAhead options := by
  rw [lexemesAhead, lexemesOnto_of_ahead options ahead, lexemesOnto_eq_append]
  cases (l.step options).2 <;> rfl

/-- Two runs find like lexemes if they start side by side, steps leave them so and find like
lexemes, and they end together. -/
theorem lexemesAhead_forall₂ {options options' : ScanOptions} {like : Lexeme → Lexeme → Prop}
    (beside : Lexer → Lexer → Prop)
    (ends : ∀ l m, beside l m → (l.cursor.after = [] ↔ m.cursor.after = []))
    (each : ∀ l m, beside l m → l.cursor.after ≠ [] →
      beside (l.step options).1 (m.step options').1 ∧
        Option.Rel like (l.step options).2 (m.step options').2)
    {l m : Lexer} (start : beside l m) :
    List.Forall₂ like (l.lexemesAhead options) (m.lexemesAhead options') := by
  induction l using steps_induction options generalizing m with
  | ended l atEnd =>
      rw [lexemesAhead_of_end options atEnd,
        lexemesAhead_of_end options' ((ends l m start).mp atEnd)]
      exact .nil
  | stepped l ahead ih =>
      have ahead' : m.cursor.after ≠ [] := fun atEnd => ahead ((ends l m start).mpr atEnd)
      obtain ⟨onward, found⟩ := each l m start ahead
      rw [lexemesAhead_of_ahead options ahead, lexemesAhead_of_ahead options' ahead']
      apply List.rel_append _ (ih onward)
      generalize (l.step options).2 = first, (m.step options').2 = second at found ⊢
      cases found with
      | none => exact .nil
      | some alike => exact .cons alike .nil

end Lexer

/-- Meet what a step found, if anything. What cannot be met leaves the nesting as it
was. -/
def Nesting.meetFound (n : Nesting) : Option Lexeme → Nesting × Option Defect
  | none => (n, none)
  | some lexeme =>
      match n.meet lexeme with
      | .ok met => (met, none)
      | .error defect => (n, some defect)

/-- Meeting a tag opens nothing but the tag, and that only if it is an opening tag. -/
theorem Nesting.mem_entries_of_meet {n m : Nesting} {t : Tag} (met : n.meet (.tag t) = .ok m)
    {e : OpenTag} (among : e ∈ m.stack.entries) :
    e ∈ n.stack.entries ∨ t.form = .opening ∧ e = ⟨t.name, t.site⟩ := by
  cases meets_of_meet met with
  | single alone => exact .inl among
  | dropped opens full truncates => exact .inl among
  | closed closes filled named limit policy =>
      rw [filled]
      exact .inl (.tail _ among)
  | recorded opens room entries limit policy =>
      rw [entries, List.mem_cons] at among
      rcases among with now | before
      · exact .inr ⟨opens, now⟩
      · exact .inl before

/-- A lexer with the nesting of what it has found. -/
structure Scanner where
  lexer : Lexer
  nesting : Nesting
  deriving DecidableEq, Repr

namespace Scanner

variable {options : ScanOptions}

/-- The scanner at the start of a text. -/
def start (options : ScanOptions) (text : Text) : Scanner :=
  ⟨Lexer.ofText text, Nesting.start options⟩

/-- The text that is left. -/
def ahead (s : Scanner) : Text := s.lexer.cursor.after

/-- How many bytes have been passed. -/
def offset (s : Scanner) : Nat := s.lexer.cursor.position.offset

def mode (s : Scanner) : Mode := s.lexer.mode

/-- Make a step of the lexer and meet what it found. -/
def step (options : ScanOptions) (s : Scanner) : Scanner × Option Defect :=
  let (lexer, found) := s.lexer.step options
  let (nesting, defect) := s.nesting.meetFound found
  (⟨lexer, nesting⟩, defect)

theorem step_lexer (s : Scanner) : (s.step options).1.lexer = (s.lexer.step options).1 := rfl

/-- Step to the end of the text or to the first defect. -/
def run (options : ScanOptions) (s : Scanner) : Outcome :=
  if _ended : s.ahead = [] then s.nesting.outcome s.nesting.stack.finish
  else
    match _stepped : s.step options with
    | (next, none) => run options next
    | (next, some defect) => next.nesting.outcome (some defect)
termination_by s.ahead.length
decreasing_by
  have shorter := Lexer.step_shortens options _ended
  rw [← step_lexer, _stepped] at shorter
  exact shorter

theorem run_of_end {s : Scanner} (atEnd : s.ahead = []) :
    s.run options = s.nesting.outcome s.nesting.stack.finish := by
  rw [run, dif_pos atEnd]

theorem run_of_step {s next : Scanner} (ahead : s.ahead ≠ [])
    (stepped : s.step options = (next, none)) : s.run options = next.run options := by
  rw [run, dif_neg ahead]
  split
  · rename_i reached
    rw [stepped] at reached
    cases reached
    rfl
  · rename_i reached
    rw [stepped] at reached
    cases reached

theorem run_of_defect {s next : Scanner} {defect : Defect} (ahead : s.ahead ≠ [])
    (stepped : s.step options = (next, some defect)) :
    s.run options = next.nesting.outcome (some defect) := by
  rw [run, dif_neg ahead]
  split
  · rename_i reached
    rw [stepped] at reached
    cases reached
  · rename_i reached
    rw [stepped] at reached
    cases reached
    rfl

/-- Running on is settling the lexemes of the text ahead. -/
theorem run_eq_settle (s : Scanner) :
    s.run options = s.nesting.settle (s.lexer.lexemesAhead options) := by
  obtain ⟨lexer, nesting⟩ := s
  induction lexer using Lexer.steps_induction options generalizing nesting with
  | ended lexer atEnd =>
      rw [run_of_end (s := ⟨lexer, nesting⟩) atEnd, Lexer.lexemesAhead_of_end options atEnd]
      rfl
  | stepped lexer ahead ih =>
      rw [Lexer.lexemesAhead_of_ahead options ahead]
      cases found : (lexer.step options).2 with
      | none =>
          have stepped : step options ⟨lexer, nesting⟩ =
              (⟨(lexer.step options).1, nesting⟩, none) := by
            simp only [step, found, Nesting.meetFound]
          rw [run_of_step (s := ⟨lexer, nesting⟩) ahead stepped, ih]
          rfl
      | some lexeme =>
          simp only [Option.toList_some, List.singleton_append, Nesting.settle]
          cases met : nesting.meet lexeme with
          | ok settled =>
              have stepped : step options ⟨lexer, nesting⟩ =
                  (⟨(lexer.step options).1, settled⟩, none) := by
                simp only [step, found, Nesting.meetFound, met]
              rw [run_of_step (s := ⟨lexer, nesting⟩) ahead stepped, ih]
          | error defect =>
              have stepped : step options ⟨lexer, nesting⟩ =
                  (⟨(lexer.step options).1, nesting⟩, some defect) := by
                simp only [step, found, Nesting.meetFound, met]
              rw [run_of_defect (s := ⟨lexer, nesting⟩) ahead stepped]

/-- Both ways of scanning a text agree. -/
theorem run_start (options : ScanOptions) (text : Text) :
    (start options text).run options = scan options text :=
  run_eq_settle _

/-! ## Places in a run -/

/-- A step without a defect. -/
def Steps (options : ScanOptions) (s t : Scanner) : Prop :=
  s.ahead ≠ [] ∧ s.step options = (t, none)

/-- Any number of steps without a defect. -/
abbrev Reaches (options : ScanOptions) : Scanner → Scanner → Prop :=
  Relation.ReflTransGen (Steps options)

theorem step_eq_iff {s t : Scanner} {defect : Option Defect} :
    s.step options = (t, defect) ↔ t.lexer = (s.lexer.step options).1 ∧
      s.nesting.meetFound (s.lexer.step options).2 = (t.nesting, defect) := by
  rw [step, Prod.ext_iff, Prod.ext_iff]
  obtain ⟨lexer, nesting⟩ := t
  simp only [Scanner.mk.injEq, eq_comm, and_assoc]

theorem steps_iff {s t : Scanner} :
    Steps options s t ↔ s.ahead ≠ [] ∧ t.lexer = (s.lexer.step options).1 ∧
      s.nesting.meetFound (s.lexer.step options).2 = (t.nesting, none) := by
  rw [Steps, step_eq_iff]

/-- A step that finds nothing leaves the nesting alone. -/
theorem steps_of_quiet {s : Scanner} (ahead : s.ahead ≠ [])
    (quiet : (s.lexer.stride options).found = none) :
    Steps options s
      ⟨⟨s.lexer.cursor.advance (s.lexer.stride options).length, (s.lexer.stride options).mode⟩,
        s.nesting⟩ := by
  refine steps_iff.mpr ⟨ahead, ?_, ?_⟩
  · rw [Lexer.step_eq_stride]
  · rw [Lexer.step_eq_stride]
    simp only [Stride.land, quiet]
    rfl

/-- Pass bytes that are known to be read in one step, and meet what they are. -/
theorem steps_of_stride {s : Scanner} {bytes post : Text} {mode : Mode} {found : Option Finding}
    {n : Nesting} (ahead : s.ahead = bytes ++ post) (filled : bytes ≠ [])
    (stride : s.lexer.stride options = ⟨bytes.length, mode, found⟩)
    (met : s.nesting.meetFound (found.map
      (·.lexeme s.lexer.cursor.position (s.offset + bytes.length))) = (n, none)) :
    ∃ t, Steps options s t ∧ t.mode = mode ∧ t.ahead = post ∧ t.nesting = n := by
  have taken : s.lexer.cursor.after.take bytes.length = bytes := by
    change s.ahead.take bytes.length = bytes
    rw [ahead, List.take_left]
  refine ⟨⟨(s.lexer.step options).1, n⟩, steps_iff.mpr ⟨?_, rfl, ?_⟩, ?_, ?_, rfl⟩
  · rw [ahead]
    exact List.append_ne_nil_of_left_ne_nil filled _
  · rw [Lexer.step_found, stride]
    simp only [taken]
    exact met
  · rw [Scanner.mode, Lexer.step_eq_stride, stride]
  · rw [Scanner.ahead, Lexer.step_eq_stride, stride, Cursor.advance_after]
    change s.ahead.drop bytes.length = post
    rw [ahead, List.drop_left]

/-- Pass bytes that are known to be read in one step with nothing found. -/
theorem steps_of_read (options : ScanOptions) {s : Scanner} {bytes post : Text} {mode : Mode}
    (ahead : s.ahead = bytes ++ post) (filled : bytes ≠ [])
    (read : ∀ previous rule, Stride.read options s.mode previous rule (bytes ++ post) =
      ⟨bytes.length, mode, none⟩) :
    ∃ t, Steps options s t ∧ t.mode = mode ∧ t.ahead = post ∧ t.nesting = s.nesting := by
  have stride : s.lexer.stride options = ⟨bytes.length, mode, none⟩ := by
    rw [← read s.lexer.cursor.before.head? (classify s.lexer.cursor.before), ← ahead]
    rfl
  exact steps_of_stride ahead filled stride rfl

theorem Steps.lexer {s t : Scanner} (steps : Steps options s t) :
    t.lexer = (s.lexer.step options).1 :=
  (steps_iff.mp steps).2.1

/-- A step passes the bytes of its stride. -/
theorem Steps.cursor {s t : Scanner} (steps : Steps options s t) :
    t.lexer.cursor = s.lexer.cursor.advance (s.lexer.stride options).length := by
  rw [steps.lexer, Lexer.step_eq_stride]

theorem Steps.ahead_length {s t : Scanner} (steps : Steps options s t) :
    t.ahead.length < s.ahead.length := by
  have shorter := Lexer.step_shortens options steps.1
  rwa [← steps.lexer] at shorter

/-- A step leaves the nesting alone or meets a lexeme. -/
theorem Steps.nesting_cases {s t : Scanner} (steps : Steps options s t) :
    t.nesting = s.nesting ∨ ∃ lexeme, s.nesting.meet lexeme = .ok t.nesting := by
  obtain ⟨_, _, met⟩ := steps_iff.mp steps
  cases found : (s.lexer.step options).2 with
  | none =>
      rw [found] at met
      exact .inl (Prod.mk.inj met).1.symm
  | some lexeme =>
      rw [found, Nesting.meetFound] at met
      split at met
      · rename_i settled meets
        rw [← (Prod.mk.inj met).1]
        exact .inr ⟨lexeme, meets⟩
      · cases (Prod.mk.inj met).2

/-- The scanner is deterministic. -/
theorem steps_rightUnique : Relator.RightUnique (Steps options) := by
  intro s t u first second
  exact congrArg Prod.fst (first.2.symm.trans second.2)

theorem Reaches.run_eq {s t : Scanner} (reaches : Reaches options s t) :
    s.run options = t.run options := by
  induction reaches with
  | refl => rfl
  | tail _ steps ih => rw [ih, run_of_step steps.1 steps.2]

/-- Between two places of a run lies a stretch of the text. -/
theorem Reaches.passed {s t : Scanner} (reaches : Reaches options s t) :
    ∃ bytes : Text, s.ahead = bytes ++ t.ahead ∧
      t.lexer.cursor.before = bytes.reverse ++ s.lexer.cursor.before ∧
      t.lexer.cursor.position = s.lexer.cursor.position.past bytes := by
  induction reaches with
  | refl => exact ⟨[], rfl, rfl, rfl⟩
  | @tail t u _ steps ih =>
      obtain ⟨bytes, ahead, before, position⟩ := ih
      have moved := steps.cursor
      rw [Cursor.advance_eq] at moved
      refine ⟨bytes ++ t.ahead.take (t.lexer.stride options).length, ?_, ?_, ?_⟩
      · rw [ahead, List.append_assoc, Scanner.ahead, Scanner.ahead, moved, List.take_append_drop]
      · rw [moved, before, List.reverse_append, List.append_assoc]
        rfl
      · rw [moved, position, Position.past_append]
        rfl

/-- What has been passed since an earlier place is behind the cursor. -/
theorem Reaches.before_eq {s t : Scanner} {bytes post : Text} (reaches : Reaches options s t)
    (ahead : s.ahead = bytes ++ post) (left : t.ahead = post) :
    t.lexer.cursor.before = bytes.reverse ++ s.lexer.cursor.before := by
  obtain ⟨passed, whole, before, _⟩ := reaches.passed
  rw [ahead, left] at whole
  rw [before, List.append_cancel_right whole]

theorem Reaches.offset_eq {s t : Scanner} {bytes : Text} (reaches : Reaches options s t)
    (cut : s.ahead = bytes ++ t.ahead) : t.offset = s.offset + bytes.length := by
  obtain ⟨passed, whole, _, position⟩ := reaches.passed
  rw [cut] at whole
  rw [offset, offset, position, Position.past_offset, List.append_cancel_right whole]

theorem Reaches.offset_le {s t : Scanner} (reaches : Reaches options s t) :
    s.offset ≤ t.offset := by
  obtain ⟨bytes, ahead, _⟩ := reaches.passed
  rw [reaches.offset_eq ahead]
  exact Nat.le_add_right _ _

theorem Steps.offset_lt {s t : Scanner} (steps : Steps options s t) : s.offset < t.offset := by
  obtain ⟨bytes, ahead, _⟩ := Reaches.passed (.single steps)
  have shorter := steps.ahead_length
  rw [ahead, List.length_append] at shorter
  rw [Reaches.offset_eq (.single steps) ahead]
  omega

/-- Moves that all go further never come back. -/
theorem offset_le_of_onward {moves : Scanner → Scanner → Prop}
    (onward : ∀ s t, moves s t → s.offset < t.offset) {s t : Scanner}
    (reaches : Relation.ReflTransGen moves s t) : s.offset ≤ t.offset := by
  induction reaches with
  | refl => exact Nat.le_refl _
  | @tail t u _ last ih => exact Nat.le_trans ih (Nat.le_of_lt (onward t u last))

/-- Moves that all go further have come nowhere if they have come no further. -/
theorem eq_of_offset_le_of_onward {moves : Scanner → Scanner → Prop}
    (onward : ∀ s t, moves s t → s.offset < t.offset) {s t : Scanner}
    (reaches : Relation.ReflTransGen moves s t) (notLater : t.offset ≤ s.offset) : s = t := by
  rcases reaches.cases_head with same | ⟨u, first, rest⟩
  · exact same
  · have further := onward s u first
    have later := offset_le_of_onward onward rest
    omega

/-- Moves that are determined and all go further come to at most one state at each
offset. -/
theorem eq_of_offset_of_onward {moves : Scanner → Scanner → Prop}
    (unique : Relator.RightUnique moves) (onward : ∀ s t, moves s t → s.offset < t.offset)
    {s t u : Scanner} (first : Relation.ReflTransGen moves s t)
    (second : Relation.ReflTransGen moves s u) (same : t.offset = u.offset) : t = u := by
  rcases Relation.ReflTransGen.total_of_right_unique unique first second with further | further
  · exact eq_of_offset_le_of_onward onward further (Nat.le_of_eq same.symm)
  · exact (eq_of_offset_le_of_onward onward further (Nat.le_of_eq same)).symm

/-- The offset tells how far a run has come. -/
theorem Reaches.eq_of_offset_le {s t : Scanner} (reaches : Reaches options s t)
    (notLater : t.offset ≤ s.offset) : s = t :=
  eq_of_offset_le_of_onward (fun _ _ => Steps.offset_lt) reaches notLater

/-- A run has at most one state at each offset. -/
theorem Reaches.eq_of_offset {s t u : Scanner} (first : Reaches options s t)
    (second : Reaches options s u) (same : t.offset = u.offset) : t = u :=
  eq_of_offset_of_onward steps_rightUnique (fun _ _ => Steps.offset_lt) first second same

/-- The states of the run from `s` on, in order. -/
def places (options : ScanOptions) (s : Scanner) : List Scanner :=
  if _ended : s.ahead = [] then [s]
  else
    match _stepped : s.step options with
    | (next, none) => s :: places options next
    | (_, some _) => [s]
termination_by s.ahead.length
decreasing_by
  have shorter := Lexer.step_shortens options _ended
  rw [← step_lexer, _stepped] at shorter
  exact shorter

theorem mem_places_iff {s t : Scanner} : t ∈ places options s ↔ Reaches options s t := by
  have stuck {s : Scanner} (stops : ∀ u, ¬ Steps options s u) :
      t ∈ [s] ↔ Reaches options s t := by
    rw [List.mem_singleton, Reaches, Relation.ReflTransGen.cases_head_iff]
    constructor
    · exact fun same => .inl same.symm
    · rintro (same | ⟨u, steps, _⟩)
      · exact same.symm
      · exact absurd steps (stops u)
  fun_induction places options s with
  | case1 s ended => exact stuck fun u steps => steps.1 ended
  | case2 s ended next stepped ih =>
      have onto : t ∈ places options next ↔ Relation.ReflTransGen (Steps options) next t := ih
      rw [List.mem_cons, onto, Reaches, Relation.ReflTransGen.cases_head_iff (a := s)]
      constructor
      · rintro (rfl | onward)
        · exact .inl rfl
        · exact .inr ⟨next, ⟨ended, stepped⟩, onward⟩
      · rintro (rfl | ⟨u, steps, onward⟩)
        · exact .inl rfl
        · cases steps_rightUnique steps ⟨ended, stepped⟩
          exact .inr onward
  | case3 s ended next defect stepped =>
      exact stuck fun u steps => by cases stepped.symm.trans steps.2

instance (s t : Scanner) : Decidable (Reaches options s t) := decidable_of_iff _ mem_places_iff

/-- The scanner is at `s` between two steps of its run over `text`. -/
def Visits (options : ScanOptions) (text : Text) (s : Scanner) : Prop :=
  Reaches options (start options text) s

/-- What a scanner has open after a step was open before, or is the opening tag that the
step found. -/
theorem Steps.mem_entries {s t : Scanner} (steps : Steps options s t) {e : OpenTag}
    (among : e ∈ t.nesting.stack.entries) :
    e ∈ s.nesting.stack.entries ∨
      (s.lexer.stride options).found = some (.tag .opening e.name) ∧
        e.site = s.lexer.cursor.position := by
  obtain ⟨_, _, met⟩ := steps_iff.mp steps
  rw [Lexer.step_eq_stride] at met
  simp only [Stride.land] at met
  cases found : (s.lexer.stride options).found with
  | none =>
      rw [found] at met
      obtain ⟨same, _⟩ := Prod.mk.inj met
      rw [← same] at among
      exact .inl among
  | some lexeme =>
      rw [found] at met
      cases lexeme with
      | typeBrackets rule =>
          obtain ⟨same, _⟩ := Prod.mk.inj met
          rw [← same] at among
          exact .inl among
      | tag form name =>
          simp only [Option.map_some, Finding.lexeme, Nesting.meetFound] at met
          split at met
          · rename_i settled meets
            obtain ⟨same, _⟩ := Prod.mk.inj met
            rw [← same] at among
            rcases Nesting.mem_entries_of_meet meets among with before | ⟨opens, now⟩
            · exact .inl before
            · rw [now]
              exact .inr ⟨congrArg (fun form => some (Finding.tag form name)) opens, rfl⟩
          · exact absurd (Prod.mk.inj met).2 (Option.some_ne_none _)

/-- An open tag begins where the scanner was at an earlier place. -/
theorem Visits.open_site {text : Text} {s : Scanner} (visits : Visits options text s)
    {e : OpenTag} (among : e ∈ s.nesting.stack.entries) :
    ∃ u, Visits options text u ∧ u.offset < s.offset ∧ e.site = u.lexer.cursor.position := by
  induction visits with
  | refl => cases among
  | @tail s t visits steps ih =>
      have further := steps.offset_lt
      rcases steps.mem_entries among with before | ⟨_, now⟩
      · obtain ⟨u, visited, earlier, site⟩ := ih before
        exact ⟨u, visited, Nat.lt_trans earlier further, site⟩
      · exact ⟨s, visits, further, now⟩

/-- The offset cuts the text into what has been passed and what is left. -/
theorem Visits.cut {text : Text} {s : Scanner} (visits : Visits options text s) :
    s.lexer.cursor.before = (text.take s.offset).reverse ∧ s.ahead = text.drop s.offset ∧
      s.lexer.cursor.position = Position.start.past (text.take s.offset) ∧
      s.offset ≤ text.length := by
  obtain ⟨bytes, whole, before, position⟩ := Reaches.passed visits
  change text = bytes ++ s.ahead at whole
  change s.lexer.cursor.position = Position.start.past bytes at position
  have offset : s.offset = bytes.length := by
    rw [offset, position, Position.past_offset]
    exact Nat.zero_add _
  have taken : text.take s.offset = bytes := by rw [whole, offset, List.take_left]
  refine ⟨?_, ?_, ?_, ?_⟩
  · rw [taken, before]
    exact List.append_nil _
  · rw [offset, whole, List.drop_left]
  · rw [taken, position]
  · rw [offset, whole, List.length_append]
    omega

/-! ## How a run ends -/

/-- A run from `s` stops at a defect, with the scanner at `t` behind what could not be
met. -/
def Stops (options : ScanOptions) (s : Scanner) (defect : Defect) (t : Scanner) : Prop :=
  ∃ u, Reaches options s u ∧ u.ahead ≠ [] ∧ u.step options = (t, some defect)

instance (s : Scanner) (defect : Defect) (t : Scanner) : Decidable (Stops options s defect t) :=
  decidable_of_iff
    (∃ u ∈ places options s, u.ahead ≠ [] ∧ u.step options = (t, some defect))
    (by simp only [mem_places_iff]; rfl)

theorem Stops.run_eq {s t : Scanner} {defect : Defect} (stops : Stops options s defect t) :
    s.run options = t.nesting.outcome (some defect) := by
  obtain ⟨u, reaches, ahead, stepped⟩ := stops
  rw [reaches.run_eq, run_of_defect ahead stepped]

/-- What a step cannot meet is a tag, and the nesting stays as it was. -/
theorem tag_of_step {s t : Scanner} {defect : Defect}
    (stepped : s.step options = (t, some defect)) :
    t.nesting = s.nesting ∧ ∃ form name,
      (s.lexer.stride options).found = some (.tag form name) ∧
      s.nesting.meet (.tag ⟨form, name, s.lexer.cursor.position,
        s.offset + (s.ahead.take (s.lexer.stride options).length).length⟩) = .error defect := by
  obtain ⟨_, met⟩ := step_eq_iff.mp stepped
  rw [Lexer.step_found] at met
  cases found : (s.lexer.stride options).found with
  | none =>
      rw [found] at met
      cases (Prod.mk.inj met).2
  | some finding =>
      rw [found] at met
      cases finding with
      | typeBrackets rule => cases (Prod.mk.inj met).2
      | tag form name =>
          simp only [Option.map_some, Finding.lexeme, Nesting.meetFound] at met
          split at met
          · cases (Prod.mk.inj met).2
          · rename_i failed
            obtain ⟨kept, same⟩ := Prod.mk.inj met
            cases same
            exact ⟨kept.symm, form, name, rfl, failed⟩

/-- A run comes to the end of the text unless it stops at a defect. -/
theorem run_ends (options : ScanOptions) (s : Scanner) :
    (∃ t, Reaches options s t ∧ t.ahead = []) ∨ ∃ defect t, Stops options s defect t := by
  fun_induction run options s with
  | case1 s ended => exact .inl ⟨s, .refl, ended⟩
  | case2 s ahead next stepped ih =>
      rcases ih with ⟨t, reaches, ended⟩ | ⟨defect, t, u, reaches, onward⟩
      · exact .inl ⟨t, .head ⟨ahead, stepped⟩ reaches, ended⟩
      · exact .inr ⟨defect, t, u, .head ⟨ahead, stepped⟩ reaches, onward⟩
  | case3 s ahead next defect stepped => exact .inr ⟨defect, next, s, .refl, ahead, stepped⟩

/-- Where the defect of a text comes from: it is what the end of the text leaves open, or
what the run stops at. -/
theorem scan_defect_cases {text : Text} {defect : Defect}
    (found : (scan options text).defect = some defect) :
    (∃ s, Visits options text s ∧ s.nesting.stack.finish = some defect) ∨
      ∃ s, Stops options (start options text) defect s := by
  rw [← run_start] at found
  rcases run_ends options (start options text) with
    ⟨s, reaches, ended⟩ | ⟨met, s, stops⟩
  · rw [reaches.run_eq, run_of_end ended] at found
    exact .inl ⟨s, reaches, found⟩
  · rw [stops.run_eq] at found
    cases found
    exact .inr ⟨s, stops⟩

end Scanner
end TagCheck
