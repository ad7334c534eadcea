/-
# Comments passed byte by byte

Inside a comment the lexer searches for what may end the comment and jumps there. The
scanner of this module knows no jumps: where it does not see the end of the comment it
is in, it passes one byte and looks again. What a jump searches for, such as asterisks
that may end a block comment and line feeds that do not, is no part of it.

A jump is a number of such steps that leave everything but the cursor as it was
(`Steps.bytewise`), because no byte that is jumped over could have ended the comment
(`Stride.read_of_goesOn`). The bytewise run therefore comes to every place of the other
run. It moves on with every step, so there is no second place of it at the same offset.
-/

import TagCheck.Proofs.OnePass

namespace TagCheck

/-- Whether the text ahead, which may not be empty, begins with something else than the end
of the comment that is being read. -/
def Mode.commentGoesOn : Mode → Text → Bool
  | lineComment _, b :: _ => b != Byte.lineFeed
  | blockComment _, b :: rest => !(b = Byte.asterisk && rest.head? == some Byte.slash)
  | _, _ => false

/-- A step that passes one byte wherever a comment goes on. -/
def Lexer.bytewiseStep (options : ScanOptions) (l : Lexer) : Lexer × Option Lexeme :=
  if l.mode.commentGoesOn l.cursor.after then (⟨l.cursor.next, l.mode⟩, none)
  else l.step options

/-! ## What a jump passes -/

theorem Mode.ne_nil_of_commentGoesOn {mode : Mode} {ahead : Text}
    (goesOn : mode.commentGoesOn ahead = true) : ahead ≠ [] := by
  intro ended
  subst ended
  cases mode <;> exact Bool.false_ne_true goesOn

/-- The byte that a search has come to before it finds what it seeks. -/
theorem drop_of_lt_distance {sought : UInt8 → Bool} {text : Text} {i : Nat}
    (early : i < distance sought text) :
    ∃ b rest, text.drop i = b :: rest ∧ sought b = false := by
  have inside : i < text.length := Nat.lt_of_lt_of_le early List.findIdx_le_length
  exact ⟨text[i], text.drop (i + 1), List.drop_eq_getElem_cons inside,
    List.not_of_lt_findIdx early⟩

/-- In a comment that goes on, a step stays in the comment and finds nothing, and the comment
goes on at every byte it passes. -/
theorem Stride.read_of_goesOn (options : ScanOptions) {mode : Mode} {ahead : Text}
    (previous : Option UInt8) (rule : Option Rule) (goesOn : mode.commentGoesOn ahead = true) :
    ∃ count, read options mode previous rule ahead = ⟨count, mode, none⟩ ∧
      ∀ i < count, mode.commentGoesOn (ahead.drop i) = true := by
  obtain ⟨b, rest, rfl⟩ := List.exists_cons_of_ne_nil (Mode.ne_nil_of_commentGoesOn goesOn)
  cases mode with
  | code => cases goesOn
  | template depth => cases goesOn
  | quoted quote => cases goesOn
  | lineComment host =>
      have notLineFeed : b ≠ Byte.lineFeed := bne_iff_ne.mp goesOn
      refine ⟨distance (· == Byte.lineFeed) (b :: rest), ?_, ?_⟩
      · have unopened : (Mode.lineComment host).commentOpened? options (b :: rest) = none :=
          Mode.commentOpened?_of_hostless rfl _
        simp only [read, if_neg notLineFeed, unopened]
      · intro i early
        obtain ⟨c, tail, front, other⟩ := drop_of_lt_distance early
        rw [front]
        exact bne_iff_ne.mpr (beq_eq_false_iff_ne.mp other)
  | blockComment host =>
      have notEnd : ¬ (b = Byte.asterisk && rest.head? == some Byte.slash) = true := by
        intro ends
        rw [Mode.commentGoesOn, ends] at goesOn
        cases goesOn
      by_cases lineEnds : b = Byte.lineFeed
      · -- A line feed is passed by itself, in this mode as in any other.
        refine ⟨1, ?_, ?_⟩
        · simp only [read, if_pos lineEnds]
          rfl
        · intro i first
          rw [Nat.lt_one_iff.mp first]
          exact goesOn
      · refine ⟨distance (fun b => b == Byte.asterisk || b == Byte.lineFeed) rest + 1, ?_, ?_⟩
        · have unopened : (Mode.blockComment host).commentOpened? options (b :: rest) = none :=
            Mode.commentOpened?_of_hostless rfl _
          simp only [read, if_neg lineEnds, unopened, if_neg notEnd]
        · intro i early
          cases i with
          | zero => exact goesOn
          | succ i =>
              obtain ⟨c, tail, front, other⟩ :=
                drop_of_lt_distance (Nat.lt_of_succ_lt_succ early)
              have notAsterisk : c ≠ Byte.asterisk :=
                beq_eq_false_iff_ne.mp (Bool.or_eq_false_iff.mp other).1
              rw [List.drop_succ_cons, front]
              simp only [Mode.commentGoesOn, decide_eq_false notAsterisk, Bool.false_and,
                Bool.not_false]

/-! ## The bytewise scanner -/

namespace Lexer

variable {options : ScanOptions} {l : Lexer}

theorem bytewiseStep_of_goesOn (goesOn : l.mode.commentGoesOn l.cursor.after = true) :
    l.bytewiseStep options = (⟨l.cursor.next, l.mode⟩, none) :=
  if_pos goesOn

theorem bytewiseStep_of_not (other : ¬ l.mode.commentGoesOn l.cursor.after = true) :
    l.bytewiseStep options = l.step options :=
  if_neg other

theorem bytewiseStep_shortens (options : ScanOptions) (ahead : l.cursor.after ≠ []) :
    (l.bytewiseStep options).1.cursor.after.length < l.cursor.after.length := by
  by_cases goesOn : l.mode.commentGoesOn l.cursor.after = true
  · rw [bytewiseStep_of_goesOn goesOn, Cursor.next_after, List.length_tail]
    exact Nat.sub_lt (List.length_pos_iff.mpr ahead) Nat.one_pos
  · rw [bytewiseStep_of_not goesOn]
    exact step_shortens options ahead

end Lexer

namespace Scanner

variable {options : ScanOptions} {s t u : Scanner}

/-- Make a bytewise step of the lexer and meet what it found. -/
def bytewiseStep (options : ScanOptions) (s : Scanner) : Scanner × Option Defect :=
  let (lexer, found) := s.lexer.bytewiseStep options
  let (nesting, defect) := s.nesting.meetFound found
  (⟨lexer, nesting⟩, defect)

/-- Make bytewise steps to the end of the text or to the first defect. -/
def bytewiseRun (options : ScanOptions) (s : Scanner) : Outcome :=
  if _ended : s.ahead = [] then s.nesting.outcome s.nesting.stack.finish
  else
    match _stepped : s.bytewiseStep options with
    | (next, none) => bytewiseRun options next
    | (next, some defect) => next.nesting.outcome (some defect)
termination_by s.ahead.length
decreasing_by
  have shorter := Lexer.bytewiseStep_shortens options _ended
  have lexer : (s.bytewiseStep options).1.lexer = (s.lexer.bytewiseStep options).1 := rfl
  rw [← lexer, _stepped] at shorter
  exact shorter

theorem bytewiseRun_of_end (atEnd : s.ahead = []) :
    s.bytewiseRun options = s.nesting.outcome s.nesting.stack.finish := by
  rw [bytewiseRun, dif_pos atEnd]

theorem bytewiseRun_of_step (ahead : s.ahead ≠ [])
    (stepped : s.bytewiseStep options = (t, none)) :
    s.bytewiseRun options = t.bytewiseRun options := by
  rw [bytewiseRun, dif_neg ahead]
  split
  · rename_i reached
    cases stepped.symm.trans reached
    rfl
  · rename_i reached
    cases stepped.symm.trans reached

theorem bytewiseRun_of_defect {defect : Defect} (ahead : s.ahead ≠ [])
    (stepped : s.bytewiseStep options = (t, some defect)) :
    s.bytewiseRun options = t.nesting.outcome (some defect) := by
  rw [bytewiseRun, dif_neg ahead]
  split
  · rename_i reached
    cases stepped.symm.trans reached
  · rename_i reached
    cases stepped.symm.trans reached
    rfl

/-- A bytewise step without a defect. -/
def BytewiseSteps (options : ScanOptions) (s t : Scanner) : Prop :=
  s.ahead ≠ [] ∧ s.bytewiseStep options = (t, none)

/-- Any number of bytewise steps without a defect. -/
abbrev BytewiseReaches (options : ScanOptions) : Scanner → Scanner → Prop :=
  Relation.ReflTransGen (BytewiseSteps options)

/-- The bytewise scanner is at `s` between two steps of its run over `text`. -/
def BytewiseVisits (options : ScanOptions) (text : Text) (s : Scanner) : Prop :=
  BytewiseReaches options (start options text) s

/-- A bytewise run from `s` stops at a defect, with the scanner at `t` behind what could not
be met. -/
def BytewiseStops (options : ScanOptions) (s : Scanner) (defect : Defect) (t : Scanner) : Prop :=
  ∃ u, BytewiseReaches options s u ∧ u.ahead ≠ [] ∧ u.bytewiseStep options = (t, some defect)

theorem BytewiseReaches.run_eq (reaches : BytewiseReaches options s t) :
    s.bytewiseRun options = t.bytewiseRun options := by
  induction reaches with
  | refl => rfl
  | tail _ steps ih => rw [ih, bytewiseRun_of_step steps.1 steps.2]

theorem BytewiseStops.run_eq {defect : Defect} (stops : BytewiseStops options s defect t) :
    s.bytewiseRun options = t.nesting.outcome (some defect) := by
  obtain ⟨u, reaches, ahead, stepped⟩ := stops
  rw [reaches.run_eq, bytewiseRun_of_defect ahead stepped]

theorem bytewiseStep_of_goesOn (goesOn : s.mode.commentGoesOn s.ahead = true) :
    s.bytewiseStep options = (⟨⟨s.lexer.cursor.next, s.mode⟩, s.nesting⟩, none) := by
  have lexer : s.lexer.bytewiseStep options = _ := Lexer.bytewiseStep_of_goesOn goesOn
  rw [bytewiseStep, lexer]
  rfl

theorem bytewiseStep_of_not (other : ¬ s.mode.commentGoesOn s.ahead = true) :
    s.bytewiseStep options = s.step options := by
  have lexer : s.lexer.bytewiseStep options = _ := Lexer.bytewiseStep_of_not other
  rw [bytewiseStep, lexer]
  rfl

/-! ## Places of the bytewise run -/

theorem bytewiseSteps_rightUnique : Relator.RightUnique (BytewiseSteps options) := by
  intro s t u first second
  exact congrArg Prod.fst (first.2.symm.trans second.2)

theorem BytewiseSteps.offset_lt (steps : BytewiseSteps options s t) : s.offset < t.offset := by
  obtain ⟨ahead, stepped⟩ := steps
  by_cases goesOn : s.mode.commentGoesOn s.ahead = true
  · cases (bytewiseStep_of_goesOn goesOn).symm.trans stepped
    obtain ⟨b, rest, front⟩ := List.exists_cons_of_ne_nil ahead
    change s.lexer.cursor.after = b :: rest at front
    have moved : s.lexer.cursor.next.position = s.lexer.cursor.position.next b := by
      rw [Cursor.next, front]
    change s.offset < s.lexer.cursor.next.position.offset
    rw [moved, Position.next_offset]
    exact Nat.lt_succ_self _
  · rw [bytewiseStep_of_not goesOn] at stepped
    exact Steps.offset_lt ⟨ahead, stepped⟩

/-- A bytewise run has at most one state at each offset. -/
theorem BytewiseReaches.eq_of_offset (first : BytewiseReaches options s t)
    (second : BytewiseReaches options s u) (same : t.offset = u.offset) : t = u :=
  eq_of_offset_of_onward bytewiseSteps_rightUnique (fun _ _ => BytewiseSteps.offset_lt) first
    second same

/-- Where the comment goes on at each of a number of bytes, they are passed one by one. -/
theorem bytewiseReaches_of_goesOn {count : Nat}
    (goesOn : ∀ i < count, s.mode.commentGoesOn (s.ahead.drop i) = true) :
    BytewiseReaches options s ⟨⟨s.lexer.cursor.advance count, s.mode⟩, s.nesting⟩ := by
  induction count generalizing s with
  | zero => exact .refl
  | succ count ih =>
      have now : s.mode.commentGoesOn s.ahead = true := goesOn 0 (Nat.succ_pos count)
      let next : Scanner := ⟨⟨s.lexer.cursor.next, s.mode⟩, s.nesting⟩
      have steps : BytewiseSteps options s next :=
        ⟨Mode.ne_nil_of_commentGoesOn now, bytewiseStep_of_goesOn now⟩
      have later : ∀ i < count, next.mode.commentGoesOn (next.ahead.drop i) = true := by
        intro i early
        have ahead : next.ahead.drop i = s.ahead.drop (i + 1) := by
          change s.lexer.cursor.next.after.drop i = s.lexer.cursor.after.drop (i + 1)
          rw [Cursor.next_after, List.drop_tail]
        rw [ahead]
        exact goesOn (i + 1) (Nat.succ_lt_succ early)
      exact .head steps (ih later)

/-- Every step is one bytewise step or, in a comment, a number of them. -/
theorem Steps.bytewise (steps : Steps options s t) : BytewiseReaches options s t := by
  by_cases goesOn : s.mode.commentGoesOn s.ahead = true
  · obtain ⟨count, stride, passed⟩ := Stride.read_of_goesOn options s.lexer.cursor.before.head?
      (classify s.lexer.cursor.before) goesOn
    change s.lexer.stride options = ⟨count, s.mode, none⟩ at stride
    have landed : Steps options s _ := steps_of_quiet steps.1 (congrArg Stride.found stride)
    rw [stride] at landed
    rw [steps_rightUnique steps landed]
    exact bytewiseReaches_of_goesOn passed
  · exact .single ⟨steps.1, (bytewiseStep_of_not goesOn).trans steps.2⟩

theorem Reaches.bytewise (reaches : Reaches options s t) : BytewiseReaches options s t := by
  induction reaches with
  | refl => exact .refl
  | tail _ steps ih => exact ih.trans steps.bytewise

/-- A step that meets a defect is not made in a comment. -/
theorem Stops.bytewise {defect : Defect} (stops : Stops options s defect t) :
    BytewiseStops options s defect t := by
  obtain ⟨u, reaches, ahead, stepped⟩ := stops
  refine ⟨u, Reaches.bytewise reaches, ahead, ?_⟩
  rw [bytewiseStep_of_not, stepped]
  intro goesOn
  obtain ⟨_, stride, _⟩ := Stride.read_of_goesOn options u.lexer.cursor.before.head?
    (classify u.lexer.cursor.before) goesOn
  have quiet : (u.lexer.stride options).found = none := congrArg Stride.found stride
  obtain ⟨_, form, name, found, _⟩ := tag_of_step stepped
  cases quiet.symm.trans found

theorem bytewiseRun_eq (options : ScanOptions) (s : Scanner) :
    s.bytewiseRun options = s.run options := by
  rcases run_ends options s with ⟨t, reaches, ended⟩ | ⟨defect, t, stops⟩
  · rw [reaches.run_eq, run_of_end ended, (Reaches.bytewise reaches).run_eq,
      bytewiseRun_of_end ended]
  · rw [stops.run_eq, stops.bytewise.run_eq]

/-- Jumping in comments changes nothing but the number of steps. The bytewise scanner comes
to the same outcome, events included. At every offset where the scanner is between two steps,
the bytewise scanner is in the very same state: position, mode, open tags and count. And the
two stop at the same defects in the same states. -/
theorem scan_bytewise (options : ScanOptions) (text : Text) :
    (start options text).bytewiseRun options = scan options text ∧
      (∀ s, Visits options text s → BytewiseVisits options text s ∧
        ∀ t, BytewiseVisits options text t → t.offset = s.offset → t = s) ∧
      ∀ defect s, Stops options (start options text) defect s →
        BytewiseStops options (start options text) defect s := by
  refine ⟨?_, ?_, ?_⟩
  · rw [bytewiseRun_eq, run_start]
  · intro s visits
    have visited : BytewiseVisits options text s := Reaches.bytewise visits
    refine ⟨visited, ?_⟩
    intro t other same
    exact BytewiseReaches.eq_of_offset other visited same
  · intro defect s stops
    exact stops.bytewise

end Scanner

end TagCheck
