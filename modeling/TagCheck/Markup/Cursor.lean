/-
# A cursor in a text

The cursor splits a text into the bytes already passed, nearest first, and the
bytes ahead, and carries the position of the split.  Looking back and looking
ahead are then both a matter of looking at the front of a list.

There are three moves.  `next` passes one byte of any kind.  `skipPair` passes a
two-byte ASCII delimiter and `jump` a stretch of one line; both compute the new
position from lengths and counts instead of byte by byte, which is right only
where no line feed is passed.
-/

import TagCheck.Text.Position

namespace TagCheck

/-- A place in a text together with the text on both sides of it. -/
structure Cursor where
  /-- What has been passed, nearest byte first. -/
  before : List UInt8
  /-- What lies ahead, in reading order. -/
  after : Text
  position : Position
  deriving DecidableEq, Repr

namespace Cursor

/-- The cursor at the start of a text. -/
def ofText (text : Text) : Cursor := ⟨[], text, Position.start⟩

/-- The whole text the cursor stands in. -/
def text (c : Cursor) : Text := c.before.reverse ++ c.after

/-- Pass one byte.  At the end of the text the cursor stays. -/
def next (c : Cursor) : Cursor :=
  match c.after with
  | [] => c
  | b :: rest => ⟨b :: c.before, rest, c.position.next b⟩

/-- Pass `count` bytes one by one, or all that are left. -/
def advance : Nat → Cursor → Cursor
  | 0, c => c
  | count + 1, c => advance count c.next

/-- Pass two bytes that stand on one line and are a column each. -/
def skipPair (c : Cursor) : Cursor :=
  match c.after with
  | first :: second :: rest =>
      ⟨second :: first :: c.before, rest,
        ⟨c.position.offset + 2, c.position.line, c.position.column + 2⟩⟩
  | _ => c

/-- Pass `count` bytes that stand on one line in a single move.  The column grows
by the number of characters that begin in the stretch. -/
def jump (count : Nat) (c : Cursor) : Cursor :=
  let stretch := c.after.take count
  ⟨stretch.reverseAux c.before, c.after.drop count,
    ⟨c.position.offset + stretch.length, c.position.line,
      c.position.column + stretch.countP (!Byte.isContinuation ·)⟩⟩

@[simp] theorem next_after (c : Cursor) : c.next.after = c.after.tail := by
  cases h : c.after <;> simp [next, h]

@[simp] theorem advance_after (count : Nat) (c : Cursor) :
    (c.advance count).after = c.after.drop count := by
  induction count generalizing c with
  | zero => simp [advance]
  | succ count ih => simp [advance, ih, List.drop_tail]

@[simp] theorem jump_after (count : Nat) (c : Cursor) :
    (c.jump count).after = c.after.drop count := rfl

theorem skipPair_after {c : Cursor} {first second : UInt8} {rest : Text}
    (ahead : c.after = first :: second :: rest) : c.skipPair.after = rest := by
  simp [skipPair, ahead]

end Cursor

end TagCheck
