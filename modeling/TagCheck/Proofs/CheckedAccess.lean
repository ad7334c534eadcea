/-
# Accesses that are checked

The scanner walks over lists, and a list has no index that could be wrong. To say that it
would do nothing wrong on a text that is given by its length and its bytes by number, its
accesses have to be written down as such. An access, a count or a loop that can go wrong
gives a `Checked` result here, and says what went wrong (`Fault`).

A cursor stands for the offset that it has come to (`Cursor.StandsIn`). Each operation has
one law, which says what it gives at the position of a cursor; the law for loops
(`loop_eq`) asks for the turns to be those of a walk that gets shorter.
-/

import TagCheck.Proofs.Positions

namespace TagCheck

/-- What can go wrong. -/
inductive Fault where
  /-- A byte or a stretch is asked for that is not in the text. -/
  | outside
  /-- A number is taken from a smaller one. -/
  | belowZero
  /-- A count does not fit in 32 bits. -/
  | overflow
  /-- A jump along a line passes the end of the line. -/
  | lineSkipped
  /-- A loop goes on after its last turn. -/
  | endless
  deriving DecidableEq, Repr

/-- The result of something that can go wrong. -/
abbrev Checked (α : Type) := Except Fault α

namespace Checked

theorem ok_bind {α β : Type} (a : α) (f : α → Checked β) : (Except.ok a >>= f) = f a := rfl

/-! ## Bytes and stretches -/

section Bytes

def byteAt (text : Text) (i : Nat) : Checked UInt8 :=
  match text[i]? with
  | some b => .ok b
  | none => .error .outside

/-- The bytes from `start` up to `stop`. -/
def slice (text : Text) (start stop : Nat) : Checked Text :=
  if start ≤ stop ∧ stop ≤ text.length then .ok ((text.take stop).drop start)
  else .error .outside

/-- The number that is left when `b` is taken from `a`. -/
def less (a b : Nat) : Checked Nat := if b ≤ a then .ok (a - b) else .error .belowZero

/-- The byte before the one with index `i`. -/
def byteBefore (text : Text) (i : Nat) : Checked UInt8 := do
  let before ← less i 1
  byteAt text before

/-- A count that is kept in 32 bits. -/
def word (n : Nat) : Checked Nat := if n < 0x100000000 then .ok n else .error .overflow

variable {before far : List UInt8} {b : UInt8}

theorem word_eq {n : Nat} (fits : n < 0x100000000) : word n = .ok n := if_pos fits

theorem less_eq {a b : Nat} (enough : b ≤ a) : less a b = .ok (a - b) := if_pos enough

/-- A byte that is behind the cursor has as its index the number of those before it. -/
theorem byteAt_behind (passed : b :: far <:+ before) (after : Text) :
    byteAt (before.reverse ++ after) far.length = .ok b := by
  obtain ⟨near, rfl⟩ := passed
  have found : ((near ++ b :: far).reverse ++ after)[far.length]? = some b := by
    simp
  rw [byteAt, found]

theorem byteBefore_behind (passed : b :: far <:+ before) (after : Text) :
    byteBefore (before.reverse ++ after) (b :: far).length = .ok b := by
  have before : less (b :: far).length 1 = .ok far.length := less_eq (Nat.succ_pos _)
  rw [byteBefore, before, ok_bind, byteAt_behind passed]

/-- So has a stretch that is behind the cursor. -/
theorem slice_behind {near : List UInt8} (passed : near ++ far <:+ before) (after : Text) :
    slice (before.reverse ++ after) far.length (near ++ far).length = .ok near.reverse := by
  obtain ⟨nearest, rfl⟩ := passed
  have within : far.length ≤ (near ++ far).length ∧
      (near ++ far).length ≤ ((nearest ++ (near ++ far)).reverse ++ after).length := by
    simp only [List.length_append, List.length_reverse]
    omega
  have taken : ((nearest ++ (near ++ far)).reverse ++ after).take (near ++ far).length =
      far.reverse ++ near.reverse := by
    rw [List.reverse_append, List.append_assoc, List.take_left' List.length_reverse,
      List.reverse_append]
  rw [slice, if_pos within, taken, List.drop_left' List.length_reverse]

/-- The text up to a byte that is behind the cursor. -/
theorem slice_front (passed : far <:+ before) (after : Text) :
    slice (before.reverse ++ after) 0 far.length = .ok far.reverse := by
  have passed' : far ++ [] <:+ before := by rwa [List.append_nil]
  have whole := slice_behind passed' after
  simpa using whole

end Bytes

/-! ## Loops -/

/-- What comes after a turn of a loop. -/
inductive Turn (σ ρ : Type) where
  | again (s : σ)
  | done (r : ρ)

variable {σ ρ α : Type}

/-- Take turns until one is the last, but no more than `turns`. -/
def loop (turn : σ → Checked (Turn σ ρ)) : Nat → σ → Checked ρ
  | 0, _ => .error .endless
  | turns + 1, s => do
      match ← turn s with
      | .again s => loop turn turns s
      | .done r => pure r

/-- A loop ends with the result that its turns work towards, provided that they shorten
what they are about. What that is, `a`, may be more than the loop keeps of it. -/
theorem loop_eq {turn : σ → Checked (Turn σ ρ)} (view : α → σ) (invariant : α → Prop)
    (measure : α → Nat) (result : α → ρ)
    (preserved : ∀ a, invariant a →
      turn (view a) = .ok (.done (result a)) ∨
        ∃ a', turn (view a) = .ok (.again (view a')) ∧ invariant a' ∧
          measure a' < measure a ∧ result a' = result a)
    {a : α} (holds : invariant a) {turns : Nat} (enough : measure a < turns) :
    loop turn turns (view a) = .ok (result a) := by
  induction turns generalizing a with
  | zero => exact absurd enough (Nat.not_lt_zero _)
  | succ turns ih =>
      rw [loop]
      rcases preserved a holds with ends | ⟨a', goes, still, shorter, same⟩
      · rw [ends]
        rfl
      · rw [goes, ok_bind, ← same]
        exact ih still (by omega)

/-! ## Moves -/

/-- A position whose parts fit in 32 bits. -/
def counted (p : Position) : Checked Position := do
  let _ ← word p.offset
  let _ ← word p.line
  let _ ← word p.column
  pure p

/-- Pass one byte. -/
def advance (text : Text) (p : Position) : Checked Position := do
  let b ← byteAt text p.offset
  counted (p.next b)

/-- Pass two bytes that stand on one line and are a column each. -/
def advancePair (p : Position) : Checked Position :=
  counted ⟨p.offset + 2, p.line, p.column + 2⟩

/-- Pass what stands on one line up to `target`. -/
def skipTo (text : Text) (p : Position) (target : Nat) : Checked Position := do
  let skipped ← slice text p.offset target
  if Byte.lineFeed ∈ skipped then .error .lineSkipped
  else counted ⟨target, p.line, p.column + skipped.countP (!Byte.isContinuation ·)⟩

/-- The longest text whose places can all be counted in 32 bits. -/
def longest : Nat := 0xFFFFFFFE

section Moves

variable {text : Text} {c : Cursor} {b : UInt8} {rest : Text}

theorem get_ahead (stands : c.StandsIn text) : text[c.position.offset]? = c.after.head? := by
  rw [stands.after_eq, List.head?_drop]

theorem get_second (stands : c.StandsIn text) (ahead : c.after = b :: rest) :
    text[c.position.offset + 1]? = rest.head? := by
  have second : c.after[1]? = rest.head? := by
    rw [ahead, List.getElem?_cons_succ, List.head?_eq_getElem?]
  rw [← second, stands.after_eq, List.getElem?_drop]

theorem byteAt_ahead (stands : c.StandsIn text) (ahead : c.after = b :: rest) :
    byteAt text c.position.offset = .ok b := by
  rw [byteAt, get_ahead stands, ahead]
  rfl

/-- What lies ahead is the slice up to the end of the text. -/
theorem slice_ahead (stands : c.StandsIn text) :
    slice text c.position.offset text.length = .ok c.after := by
  rw [slice, if_pos ⟨stands.exact.within, Nat.le_refl _⟩, List.take_length, stands.after_eq]

theorem byteBefore_eq (stands : c.StandsIn text) {far : List UInt8}
    (passed : c.before = b :: far) : byteBefore text c.position.offset = .ok b := by
  rw [stands.offset_eq, ← stands.whole, Cursor.text, passed]
  exact byteBefore_behind (List.suffix_refl _) c.after

variable (short : text.length ≤ longest)

include short

/-- In a text that is not too long every place can be counted. -/
theorem position_fits (stands : c.StandsIn text) :
    c.position.offset < 0x100000000 ∧ c.position.line < 0x100000000 ∧
      c.position.column < 0x100000000 := by
  have exact := stands.exact
  have within := exact.within
  have lines : c.position.line ≤ 1 + c.position.offset := by
    rw [exact.line]
    exact Nat.add_le_add_left (List.count_le_length.trans (List.length_take_le _ _)) 1
  have columns : c.position.column ≤ 1 + c.position.offset := by
    rw [exact.column]
    have onLine : (lastLine (text.take c.position.offset)).length ≤ c.position.offset :=
      (List.rtakeWhile_suffix ..).length_le.trans (List.length_take_le _ _)
    exact Nat.add_le_add_left (List.countP_le_length.trans onLine) 1
  unfold longest at short
  omega

theorem counted_eq (stands : c.StandsIn text) : counted c.position = .ok c.position := by
  obtain ⟨offset, line, column⟩ := position_fits short stands
  rw [counted, word_eq offset, ok_bind, word_eq line, ok_bind, word_eq column]
  rfl

theorem advance_eq (stands : c.StandsIn text) (ahead : c.after = b :: rest) :
    advance text c.position = .ok c.next.position := by
  have next : c.next.position = c.position.next b := by rw [Cursor.next, ahead]
  rw [advance, byteAt_ahead stands ahead, ok_bind, ← next]
  exact counted_eq short (stands.advance 1)

theorem advancePair_eq (stands : c.StandsIn text) {first second : UInt8}
    (ahead : c.after = first :: second :: rest) (oneLine : Byte.lineFeed ∉ [first, second])
    (characters : [first, second].all (!Byte.isContinuation ·)) :
    advancePair c.position = .ok (c.advance 2).position := by
  have landed := counted_eq short (stands.advance 2)
  have pair := Cursor.skipPair_eq_advance ahead oneLine characters
  rw [← pair, Cursor.skipPair, ahead] at landed ⊢
  exact landed

theorem skipTo_eq (stands : c.StandsIn text) {count : Nat} (inside : count ≤ c.after.length)
    (oneLine : Byte.lineFeed ∉ c.after.take count) :
    skipTo text c.position (c.position.offset + count) = .ok (c.advance count).position := by
  have room := stands.offset_add
  have skipped : slice text c.position.offset (c.position.offset + count) =
      .ok (c.after.take count) := by
    rw [slice, if_pos ⟨Nat.le_add_right _ _, by omega⟩, List.drop_take, stands.after_eq,
      Nat.add_sub_cancel_left]
  have landed := counted_eq short (stands.advance count)
  rw [← Cursor.jump_eq_advance oneLine, Cursor.jump, List.length_take_of_le inside] at landed ⊢
  rw [skipTo, skipped, ok_bind, if_neg oneLine]
  exact landed

end Moves

end Checked
end TagCheck
