/-
# A defect is final

A step that finds something has read no byte beyond those it passes, unless it came to
the end of the text: a tag ends with its bracket, and so do type arguments
(`Stride.read_append`). The step that stops a run is of this kind, and the steps before
it look at no more than the byte behind them, which the last step passes. So what stops
a run inside a text stops every run over a text that begins with the same bytes
(`scan_decided_at_defect`).
-/

import TagCheck.Proofs.Lookahead
import TagCheck.Proofs.Positions
import TagCheck.Proofs.TagText

namespace TagCheck

variable {taken rest : Text}

namespace Stride

variable {options : ScanOptions} {rule : Option Rule}

/-! ## Tags that end inside the text -/

theorem closingTag_length_pos {ahead : Text}
    (named : TagName.bytes options.maxNameLength ahead ≠ []) :
    0 < (closingTag options ahead).length := by
  rw [closingTag_of_named rfl named]
  exact Nat.add_pos_right _ (Nat.succ_pos _)

theorem openingTag_length_pos {ahead : Text}
    (named : TagName.bytes options.maxNameLength ahead ≠ []) :
    0 < (openingTag options ahead).length := by
  rw [openingTag_of_named rfl named rfl]
  exact Nat.add_pos_left (List.length_pos_iff.mpr named) _

/-- A byte that is passed is the first of `taken`. -/
theorem taken_eq_cons {b : UInt8} {text : Text} (cut : taken ++ rest = b :: text)
    (filled : 0 < taken.length) : ∃ tail, taken = b :: tail ∧ tail ++ rest = text := by
  rcases List.append_eq_cons_iff.mp cut with ⟨nothing, _⟩ | ⟨tail, front, back⟩
  · rw [nothing] at filled
    cases filled
  · exact ⟨tail, front, back.symm⟩

/-- What a bracket begins and ends inside `taken` is the same whatever follows. -/
theorem finds_append {s : Stride} (finds : Finds options rule (taken ++ rest) s)
    (more : rest ≠ []) (inside : s.length ≤ taken.length) (other : Text) :
    Finds options rule (taken ++ other) s := by
  generalize cut : taken ++ rest = ahead at finds
  cases finds with
  | openingFragment text =>
      obtain ⟨tail, rfl, _⟩ := taken_eq_cons cut inside
      exact .openingFragment (tail ++ other)
  | closingFragment text =>
      obtain ⟨tail, rfl, behind⟩ := taken_eq_cons cut (Nat.lt_of_lt_of_le Nat.two_pos inside)
      obtain ⟨tail, rfl, _⟩ := taken_eq_cons behind (Nat.le_of_succ_le_succ inside)
      exact .closingFragment (tail ++ other)
  | @closingTag first text starts named =>
      have filled := closingTag_length_pos named
      simp only [behind] at inside
      obtain ⟨tail, rfl, behind⟩ := taken_eq_cons cut (by omega)
      rw [List.length_cons] at inside
      rw [← behind] at named inside filled ⊢
      obtain ⟨sameName, same⟩ := closingTag_append named (by omega) other
      obtain ⟨tail, rfl, _⟩ := taken_eq_cons behind (by omega)
      rw [← sameName] at named
      rw [← same]
      exact .closingTag starts named
  | @openingTag first text starts named unclaimed =>
      have filled := openingTag_length_pos named
      rw [← cut] at named inside filled ⊢
      obtain ⟨sameName, same⟩ := openingTag_append more named inside other
      obtain ⟨tail, rfl, _⟩ := taken_eq_cons cut (by omega)
      rw [← sameName] at named
      rw [← same]
      exact .openingTag starts named unclaimed
  | @typeBrackets first text claim starts claimed =>
      have filled := passed_lt_typeArgumentsLength 1 0 first text
      rw [← cut] at inside filled ⊢
      have same : typeArgumentsLength 1 0 (taken ++ other) =
          typeArgumentsLength 1 0 (taken ++ rest) :=
        typeArgumentsLength_append more (by simp only at inside; omega)
      obtain ⟨tail, rfl, _⟩ := taken_eq_cons cut (by simp only at inside; omega)
      rw [← same]
      exact .typeBrackets starts claimed

/-- A step that finds something and ends inside `taken` is the same whatever follows. -/
theorem read_append {mode : Mode} {previous : Option UInt8} {f : Finding}
    (found : (read options mode previous rule (taken ++ rest)).found = some f) (more : rest ≠ [])
    (inside : (read options mode previous rule (taken ++ rest)).length ≤ taken.length)
    (other : Text) :
    read options mode previous rule (taken ++ other) =
      read options mode previous rule (taken ++ rest) := by
  obtain ⟨rfl, text, s, cut, finds, same⟩ := read_finds found
  rw [same] at inside ⊢
  simp only [behind] at inside
  obtain ⟨tail, rfl, rfl⟩ := taken_eq_cons cut (by omega)
  rw [List.length_cons] at inside
  have again := finds_append finds more (by omega) other
  rw [List.cons_append, read_bracket, again.angleBracket_eq]

end Stride

/-! ## The step that stops a run -/

/-- The lexer makes the same step over a text that goes on differently behind it. -/
theorem Lexer.step_append {options : ScanOptions} {l : Lexer} {f : Finding}
    (cut : l.cursor.after = taken ++ rest) (found : (l.stride options).found = some f)
    (more : rest ≠ []) (inside : (l.stride options).length ≤ taken.length) (other : Text) :
    (l.withAhead (taken ++ other)).step options =
      ((l.step options).1.withAhead (taken.drop (l.stride options).length ++ other),
        (l.step options).2) := by
  have same : (l.withAhead (taken ++ other)).stride options = l.stride options := by
    rw [stride, cut] at found inside
    rw [stride, stride, cut]
    exact Stride.read_append found more inside other
  rw [step_eq_stride, step_eq_stride, same]
  simp only [Stride.land, Cursor.advance_eq, withAhead, cut,
    List.drop_append_of_le_length inside, List.take_append_of_le_length inside]

namespace Scanner

variable {options : ScanOptions} {text : Text} {defect : Defect} {t : Scanner}

/-- The step that meets a defect inside a text meets it whatever follows. -/
theorem step_append_of_defect {u : Scanner} (stepped : u.step options = (t, some defect))
    (cut : u.ahead = taken ++ rest) (more : rest ≠ [])
    (passed : taken.length = (u.lexer.stride options).length) (other : Text) :
    (u.withAhead (taken ++ other)).step options = (t.withAhead other, some defect) := by
  obtain ⟨kept, form, name, found, _⟩ := tag_of_step stepped
  have moved := Lexer.step_append cut found more (Nat.le_of_eq passed.symm) other
  rw [← passed, List.drop_length, List.nil_append] at moved
  obtain ⟨lexer, met⟩ := step_eq_iff.mp stepped
  refine step_eq_iff.mpr ⟨?_, ?_⟩
  · change t.lexer.withAhead other = ((u.lexer.withAhead (taken ++ other)).step options).1
    rw [moved, lexer]
  · change u.nesting.meetFound ((u.lexer.withAhead (taken ++ other)).step options).2 = _
    rw [moved]
    exact met

/-- A run that stops inside a text stops in the same way if the text goes on differently
from there. -/
theorem Stops.withAhead (stops : Stops options (start options text) defect t)
    (inside : t.offset < text.length) (other : Text) :
    Stops options (start options (text.take t.offset ++ other)) defect (t.withAhead other) := by
  obtain ⟨u, reaches, _, stepped⟩ := stops
  have visits : Visits options text u := reaches
  obtain ⟨_, form, name, found, _⟩ := tag_of_step stepped
  have positive : 0 < (u.lexer.stride options).length := by
    obtain ⟨_, _, s, _, _, same⟩ := Stride.read_finds found
    rw [Lexer.stride, same]
    exact Nat.add_pos_left Nat.one_pos _
  have place : t.offset = u.offset + (u.ahead.take (u.lexer.stride options).length).length := by
    rw [offset, (step_eq_iff.mp stepped).1, Lexer.step_eq_stride]
    simp only [Cursor.advance_eq, Position.past_offset]
    rfl
  generalize passed : (u.lexer.stride options).length = count at positive place
  have ahead : text.drop u.offset = u.ahead := visits.standsIn.after_eq.symm
  have within : u.offset ≤ text.length := visits.standsIn.exact.within
  have length : u.ahead.length = text.length - u.offset := by rw [← ahead, List.length_drop]
  -- The step ends before the text does, so it passes all that it reads.
  have taken : (u.ahead.take count).length = count := by
    rw [List.length_take] at place ⊢
    omega
  have more : u.ahead.drop count ≠ [] := by
    apply List.ne_nil_of_length_pos
    rw [List.length_drop]
    omega
  have begins : text.take t.offset = text.take u.offset ++ u.ahead.take count := by
    rw [place, taken, List.take_add, ahead]
  have again := step_append_of_defect stepped (List.take_append_drop count u.ahead).symm more
    (taken.trans passed.symm) other
  obtain ⟨next, tail, front⟩ := List.exists_cons_of_ne_nil
    (List.ne_nil_of_length_pos (Nat.lt_of_lt_of_eq positive taken.symm))
  have whole : text = text.take u.offset ++ next :: (tail ++ u.ahead.drop count) := by
    rw [← List.cons_append, ← front, List.take_append_drop, ← ahead, List.take_append_drop]
  have again' : (u.withAhead (next :: (tail ++ other))).step options =
      (t.withAhead other, some defect) := by
    rw [← List.cons_append, ← front]
    exact again
  have visits' : Visits options (text.take u.offset ++ next :: (tail ++ u.ahead.drop count)) u := by
    rw [← whole]
    exact visits
  have onward : Visits options (text.take u.offset ++ next :: (tail ++ other))
      (u.withAhead (next :: (tail ++ other))) :=
    visits'.withAhead (List.length_take_of_le within).symm
  rw [begins, front, List.append_assoc, List.cons_append]
  exact ⟨_, onward, List.cons_ne_nil _ _, again'⟩

end Scanner

/-- Where a run stops at a defect inside a text, the defect and all that was counted
before it are settled: every text that begins with the bytes passed so far has the same
outcome, whatever follows them there. -/
theorem scan_decided_at_defect {options : ScanOptions} {text : Text} {defect : Defect}
    {t : Scanner} (stops : Scanner.Stops options (.start options text) defect t)
    (inside : t.offset < text.length) {text' : Text}
    (agree : text'.take t.offset = text.take t.offset) :
    (scan options text).defect = some defect ∧ scan options text' = scan options text := by
  have again := stops.withAhead inside (text'.drop t.offset)
  rw [← agree, List.take_append_drop] at again
  rw [← Scanner.run_start options text, ← Scanner.run_start options text', stops.run_eq,
    again.run_eq]
  exact ⟨rfl, rfl⟩

theorem scan_decided_at_defect_crossed :
    let options : ScanOptions := {}
    let text : Text := "<a></b><c>".toUTF8.toList
    let text' : Text := "<a></b>then </a".toUTF8.toList
    let defect : Defect := .mismatch "a" ⟨0, 1, 1⟩ "b" ⟨3, 1, 4⟩ ⟨3, 4⟩
    let t := (((Scanner.start options text).step options).1.step options).1
    Scanner.Stops options (.start options text) defect t ∧ t.offset < text.length ∧
      text'.take t.offset = text.take t.offset ∧
      (scan options text).defect = some defect ∧ scan options text' = scan options text := by
  intro options text text' defect t
  have stops : Scanner.Stops options (.start options text) defect t := by decide +kernel
  have inside : t.offset < text.length := by decide +kernel
  have agree : text'.take t.offset = text.take t.offset := by decide +kernel
  exact ⟨stops, inside, agree, scan_decided_at_defect stops inside agree⟩

end TagCheck
