/-
# Exact positions

A position is carried along by the moves of the cursor and never recomputed. Here it is
said what it should be, by counting in the text up to its offset: lines by the line
feeds, columns by the characters that begin on the last line (`Position.Exact`). Every
cursor that a run comes to has that position, and has the text split at its offset
(`Cursor.StandsIn`), because every move passes bytes one by one in effect
(`Cursor.advance_eq`).
-/

import Mathlib.Data.List.DropRight
import TagCheck.Proofs.OnePass

namespace TagCheck

/-- The last line of a text, which is empty behind a line feed. -/
def lastLine (text : Text) : Text := text.rtakeWhile (· != Byte.lineFeed)

theorem lastLine_concat (text : Text) (b : UInt8) :
    lastLine (text ++ [b]) = if b = Byte.lineFeed then [] else lastLine text ++ [b] := by
  rw [lastLine, List.rtakeWhile_concat, lastLine]
  simp only [bne_iff_ne, ne_eq, ite_not]

namespace Position

/-- A position that tells the truth about a text: it lies in the text, the line is one
more than the line feeds before it, and the column one more than the characters that
begin on its line before it. -/
structure Exact (text : Text) (p : Position) : Prop where
  within : p.offset ≤ text.length
  line : p.line = 1 + (text.take p.offset).count Byte.lineFeed
  column : p.column = 1 + (lastLine (text.take p.offset)).countP (!Byte.isContinuation ·)

/-- What passing a whole text byte by byte adds up to. -/
theorem past_start (text : Text) :
    start.past text = ⟨text.length, 1 + text.count Byte.lineFeed,
      1 + (lastLine text).countP (!Byte.isContinuation ·)⟩ := by
  induction text using List.reverseRecOn with
  | nil => rfl
  | append_singleton text b ih =>
      have last (p : Position) : p.past [b] = p.next b := rfl
      rw [past_append, ih, last, next, lastLine_concat, List.length_append, List.count_append]
      by_cases lineEnds : b = Byte.lineFeed
      · simp [lineEnds, Nat.add_assoc]
      · by_cases continues : Byte.isContinuation b = true
        · simp [lineEnds, continues, List.countP_append]
        · simp [lineEnds, continues, List.countP_append, Nat.add_assoc]

end Position

namespace Cursor

/-- A cursor in `text` whose position is that of the bytes it has passed. -/
structure StandsIn (text : Text) (c : Cursor) : Prop where
  whole : c.text = text
  placed : c.position = Position.start.past c.before.reverse

namespace StandsIn

variable {text : Text} {c : Cursor}

theorem advance (stands : c.StandsIn text) (count : Nat) : (c.advance count).StandsIn text where
  whole := by
    rw [← stands.whole, Cursor.text, Cursor.text, advance_eq, List.reverse_append,
      List.reverse_reverse, List.append_assoc, List.take_append_drop]
  placed := by
    rw [advance_eq, stands.placed, List.reverse_append, List.reverse_reverse,
      Position.past_append]

theorem offset_eq (stands : c.StandsIn text) : c.position.offset = c.before.length := by
  rw [stands.placed, Position.past_start, List.length_reverse]

theorem before_eq (stands : c.StandsIn text) :
    text.take c.position.offset = c.before.reverse := by
  rw [← stands.whole, stands.offset_eq, Cursor.text, List.take_left' List.length_reverse]

theorem after_eq (stands : c.StandsIn text) : c.after = text.drop c.position.offset := by
  rw [← stands.whole, stands.offset_eq, Cursor.text, List.drop_left' List.length_reverse]

theorem offset_add (stands : c.StandsIn text) :
    c.position.offset + c.after.length = text.length := by
  rw [stands.offset_eq, ← stands.whole, Cursor.text, List.length_append, List.length_reverse]

theorem getElem?_behind (stands : c.StandsIn text) (entered : 0 < c.position.offset) :
    text[c.position.offset - 1]? = c.before.head? := by
  have inside : c.position.offset - 1 < c.position.offset := Nat.sub_lt entered Nat.one_pos
  rw [← List.getElem?_take_of_lt inside, stands.before_eq, stands.offset_eq,
    ← List.length_reverse, ← List.getLast?_eq_getElem?, List.getLast?_reverse]

theorem exact (stands : c.StandsIn text) : c.position.Exact text := by
  have parts := Position.past_start c.before.reverse
  rw [← stands.placed] at parts
  refine ⟨?_, ?_, ?_⟩
  · rw [stands.offset_eq, ← stands.whole, Cursor.text, List.length_append, List.length_reverse]
    exact Nat.le_add_right _ _
  · rw [stands.before_eq, parts]
  · rw [stands.before_eq, parts]

end StandsIn
end Cursor

namespace Lexer

/-- What holds of all that single steps find in a text holds of all lexemes of it. -/
theorem forall_mem_lexemesAhead {options : ScanOptions} {P : Lexeme → Prop} {text : Text}
    (each : ∀ l : Lexer, l.cursor.StandsIn text → ∀ lexeme ∈ (l.step options).2, P lexeme)
    {l : Lexer} (stands : l.cursor.StandsIn text) :
    ∀ lexeme ∈ l.lexemesAhead options, P lexeme := by
  induction l using steps_induction options with
  | ended l atEnd =>
      rw [lexemesAhead_of_end options atEnd]
      exact List.forall_mem_nil _
  | stepped l ahead ih =>
      have stands' : (l.step options).1.cursor.StandsIn text := by
        rw [step_eq_stride]
        exact stands.advance _
      rw [lexemesAhead_of_ahead options ahead, List.forall_mem_append]
      refine ⟨?_, ih stands'⟩
      intro lexeme found
      exact each l stands lexeme (Option.mem_toList.mp found)

end Lexer

namespace Scanner

variable {options : ScanOptions} {text : Text} {s : Scanner}

theorem Visits.standsIn (visits : Visits options text s) : s.lexer.cursor.StandsIn text := by
  obtain ⟨before, ahead, position, _⟩ := visits.cut
  refine ⟨?_, ?_⟩
  · change s.lexer.cursor.before.reverse ++ s.ahead = text
    rw [before, ahead, List.reverse_reverse, List.take_append_drop]
  · rw [position, before, List.reverse_reverse]

/-- The cursor is left right also by a step that meets a defect. -/
theorem Visits.standsIn_step (visits : Visits options text s) :
    (s.step options).1.lexer.cursor.StandsIn text := by
  rw [step_lexer, Lexer.step_eq_stride]
  exact visits.standsIn.advance _

end Scanner
end TagCheck
