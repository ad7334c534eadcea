/-
# The moves of a cursor, byte by byte

`next` is the only move whose effect on the position is beyond doubt: it looks at
the byte it passes. `skipPair` and `jump` count instead. This module shows that
wherever no line feed is passed, and for `skipPair` no byte that continues a
character, both are the same as passing the bytes one by one.

All moves are then instances of `advance`, which has one equation
(`advance_eq`): the passed bytes change sides, and the position is that of the
passed bytes.
-/

import TagCheck.Markup.Cursor

namespace TagCheck

namespace Position

theorem past_append (p : Position) (first second : Text) :
    p.past (first ++ second) = (p.past first).past second :=
  List.foldl_append

theorem next_offset (p : Position) (b : UInt8) : (p.next b).offset = p.offset + 1 := by
  unfold next
  split
  · rfl
  · split <;> rfl

theorem past_offset (p : Position) (bytes : Text) :
    (p.past bytes).offset = p.offset + bytes.length := by
  induction bytes generalizing p with
  | nil => rfl
  | cons b rest ih =>
      change ((p.next b).past rest).offset = _
      rw [ih, next_offset, List.length_cons]
      omega

/-- On one line only the characters that begin count. -/
theorem past_of_no_lineFeed (p : Position) {bytes : Text} (oneLine : Byte.lineFeed ∉ bytes) :
    p.past bytes = ⟨p.offset + bytes.length, p.line,
      p.column + bytes.countP (!Byte.isContinuation ·)⟩ := by
  induction bytes generalizing p with
  | nil => rfl
  | cons b rest ih =>
      have notLineFeed : Byte.lineFeed ≠ b := List.ne_of_not_mem_cons oneLine
      have restOfLine : Byte.lineFeed ∉ rest := List.not_mem_of_not_mem_cons oneLine
      have moved : p.next b = ⟨p.offset + 1, p.line,
          p.column + if Byte.isContinuation b then 0 else 1⟩ := by
        rw [next, if_neg (Ne.symm notLineFeed)]
        split <;> rfl
      change (p.next b).past rest = _
      rw [ih _ restOfLine, moved, List.countP_cons, List.length_cons]
      cases Byte.isContinuation b <;> simp <;> omega

end Position

namespace Cursor

/-- What advancing does to each part of a cursor. -/
theorem advance_eq (count : Nat) (c : Cursor) :
    c.advance count = ⟨(c.after.take count).reverse ++ c.before, c.after.drop count,
      c.position.past (c.after.take count)⟩ := by
  induction count generalizing c with
  | zero => simp [advance, Position.past]
  | succ count ih =>
      obtain ⟨before, after, position⟩ := c
      cases after with
      | nil => simp [advance, ih, next, Position.past]
      | cons b rest => simp [advance, ih, next, Position.past]

theorem advance_add (first second : Nat) (c : Cursor) :
    c.advance (first + second) = (c.advance first).advance second := by
  induction first generalizing c with
  | zero => rw [Nat.zero_add, advance]
  | succ first ih =>
      rw [Nat.succ_add, advance, ih, advance]

theorem advance_one (c : Cursor) : c.advance 1 = c.next := rfl

/-- Two ASCII bytes of one line can be passed at once. -/
theorem skipPair_eq_advance {c : Cursor} {first second : UInt8} {rest : Text}
    (ahead : c.after = first :: second :: rest)
    (oneLine : Byte.lineFeed ∉ [first, second])
    (characters : [first, second].all (!Byte.isContinuation ·)) :
    c.skipPair = c.advance 2 := by
  have counted : [first, second].countP (!Byte.isContinuation ·) = 2 :=
    List.countP_eq_length.mpr (List.all_eq_true.mp characters)
  have taken : c.after.take 2 = [first, second] := by rw [ahead]; rfl
  rw [advance_eq, taken, Position.past_of_no_lineFeed _ oneLine, counted]
  simp [skipPair, ahead]

/-- A stretch of one line can be passed at once. -/
theorem jump_eq_advance {count : Nat} {c : Cursor}
    (oneLine : Byte.lineFeed ∉ c.after.take count) : c.jump count = c.advance count := by
  rw [advance_eq, Position.past_of_no_lineFeed _ oneLine, jump, List.reverseAux_eq]

end Cursor

end TagCheck
