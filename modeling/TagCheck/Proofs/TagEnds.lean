/-
# The bracket that ends an opening tag

The rest of an opening tag, behind its name, is read with an eye on quotes and braces. The
bracket that ends the tag can be said by the text alone: it is the first `>` that stands in
no quoted value and between no braces, as told by going through the bytes from the name on
(`EndsTag`). The search comes to the same place from the other side. It recognises `/>` at
the slash, one byte early, so `attributes_of_first` has to show that the bracket behind such
a slash is the first one, and that a slash before the first bracket is such a slash.

A tag that has no such bracket takes up the rest of the text.
-/

import TagCheck.Proofs.NameLength
import TagCheck.Proofs.RegionEnds
import TagCheck.Proofs.Returns

namespace TagCheck

/-- The byte at index `i` is a bracket outside of all quotes and braces, as they stand from
`start` on, where the name of an opening tag ends. -/
def EndsTag (text : Text) (start i : Nat) : Prop :=
  text[i]? = some Byte.greaterThan ∧
    openInTag none none 0 ((text.take i).drop start) = (none, 0)

instance (text : Text) (start i : Nat) : Decidable (EndsTag text start i) :=
  inferInstanceAs (Decidable (_ ∧ _))

/-! ## The search in the text ahead -/

/-- The bracket at index `k` of the text ahead ends the tag, given what is open already. -/
def EndsAhead (previous quote : Option UInt8) (depth : Nat) (ahead : Text) (k : Nat) : Prop :=
  ahead[k]? = some Byte.greaterThan ∧ openInTag previous quote depth (ahead.take k) = (none, 0)

section Ahead

variable {previous quote : Option UInt8} {depth k : Nat} {b : UInt8} {ahead : Text}

theorem endsAhead_zero : EndsAhead previous quote depth (b :: ahead) 0 ↔
    b = Byte.greaterThan ∧ quote = none ∧ depth = 0 := by
  simp only [EndsAhead, List.getElem?_cons_zero, Option.some.injEq, List.take_zero, openInTag,
    Prod.mk.injEq]

theorem endsAhead_succ : EndsAhead previous quote depth (b :: ahead) (k + 1) ↔
    EndsAhead (some b) (quoteAfter previous b quote) (bracesAfter depth b quote) ahead k := by
  simp only [EndsAhead, List.getElem?_cons_succ, List.take_succ_cons, openInTag]

/-- Behind a slash that stands outside a bracket ends the tag. -/
theorem endsAhead_one_of_slash (next : ahead.head? = some Byte.greaterThan) :
    EndsAhead previous none 0 (Byte.slash :: ahead) 1 := by
  obtain ⟨tail, rfl⟩ := List.head?_eq_some_iff.mp next
  exact endsAhead_succ.mpr (endsAhead_zero.mpr ⟨rfl, rfl, rfl⟩)

/-- A slash right before the bracket that ends a tag begins that end. -/
theorem tagEnd?_of_slash (quotes : ∀ q ∈ quote, Byte.isQuote q)
    (ends : EndsAhead previous quote depth (Byte.slash :: ahead) 1) :
    tagEnd? depth Byte.slash ahead.head? quote = some ⟨2, true⟩ := by
  rw [endsAhead_succ] at ends
  obtain ⟨bracket, outside⟩ := ends
  rw [← List.head?_eq_getElem?] at bracket
  cases quote with
  | none =>
      have level : depth = 0 := (Prod.mk.inj outside).2
      rw [level, bracket]
      rfl
  | some q =>
      -- No value is quoted with a slash, so the slash leaves the value open.
      have other : Byte.slash ≠ q := (Byte.ne_of_isQuote (quotes q rfl)).2.2.1.symm
      have still : quoteAfter previous Byte.slash (some q) = some q := by
        rw [quoteAfter, decide_eq_false other]
        rfl
      rw [List.take_zero, openInTag, still] at outside
      cases (Prod.mk.inj outside).1

/-- The search passes the first bracket that ends the tag, and looks at the byte before. -/
theorem attributes_of_first (quotes : ∀ q ∈ quote, Byte.isQuote q)
    (first : FirstFrom 0 (EndsAhead previous quote depth ahead) k) :
    attributes previous quote depth 0 ahead =
      ⟨k + 1, decide (0 < k ∧ ahead[k - 1]? = some Byte.slash)⟩ := by
  induction ahead generalizing previous quote depth k with
  | nil => cases first.2.1.1
  | cons b ahead ih =>
      obtain ⟨_, ends, earlier⟩ := first
      rw [attributes_cons]
      cases ending : tagEnd? depth b ahead.head? quote with
      | some found =>
          obtain ⟨rfl, rfl, ⟨rfl, next, rfl⟩ | ⟨rfl, rfl⟩⟩ := tagEnd?_eq_some ending
          · have bracket : EndsAhead previous none 0 (Byte.slash :: ahead) 1 :=
              endsAhead_one_of_slash next
            have notFirst : k ≠ 0 := by
              rintro rfl
              exact absurd (endsAhead_zero.mp ends).1 (by decide)
            have notLater : ¬ 1 < k := fun later => earlier 1 later (Nat.zero_le 1) bracket
            obtain rfl : k = 1 := by omega
            rfl
          · have bracket : EndsAhead previous none 0 (Byte.greaterThan :: ahead) 0 :=
              endsAhead_zero.mpr ⟨rfl, rfl, rfl⟩
            obtain rfl : k = 0 :=
              Nat.eq_zero_of_not_pos fun later => earlier 0 later (Nat.le_refl 0) bracket
            rfl
      | none =>
          cases k with
          | zero =>
              obtain ⟨rfl, rfl, rfl⟩ := endsAhead_zero.mp ends
              cases ending
          | succ k =>
              have onward : FirstFrom 0 (EndsAhead (some b) (quoteAfter previous b quote)
                  (bracesAfter depth b quote) ahead) k := by
                refine ⟨Nat.zero_le k, endsAhead_succ.mp ends, ?_⟩
                intro j early _
                exact mt endsAhead_succ.mpr
                  (earlier (j + 1) (Nat.succ_lt_succ early) (Nat.zero_le _))
              simp only
              rw [attributes_passed, ih (quoteAfter_quotes b quotes) onward]
              cases k with
              | zero =>
                  have notSlash : b ≠ Byte.slash := by
                    rintro rfl
                    cases ending.symm.trans (tagEnd?_of_slash quotes ends)
                  simp [notSlash]
              | succ k =>
                  simp [Nat.add_comm, Nat.add_left_comm]

/-- Without such a bracket the search comes to the end of the text. -/
theorem attributes_of_endless (endless : ∀ k, ¬ EndsAhead previous quote depth ahead k) :
    attributes previous quote depth 0 ahead = ⟨ahead.length, false⟩ := by
  induction ahead generalizing previous quote depth with
  | nil => rfl
  | cons b ahead ih =>
      rw [attributes_cons]
      cases ending : tagEnd? depth b ahead.head? quote with
      | some found =>
          obtain ⟨rfl, rfl, ⟨rfl, next, _⟩ | ⟨rfl, _⟩⟩ := tagEnd?_eq_some ending
          · exact absurd (endsAhead_one_of_slash next) (endless 1)
          · exact absurd (endsAhead_zero.mpr ⟨rfl, rfl, rfl⟩) (endless 0)
      | none =>
          have onward := ih fun k => mt endsAhead_succ.mpr (endless (k + 1))
          simp only
          rw [attributes_passed, onward, List.length_cons, Nat.add_comm, Nat.zero_add]

end Ahead

/-! ## The search at a place of a text -/

/-- The first index of its kind, counted from elsewhere. -/
theorem firstFrom_add_iff {start k : Nat} {P Q : Nat → Prop} (same : ∀ j, Q (start + j) ↔ P j) :
    FirstFrom start Q (start + k) ↔ FirstFrom 0 P k := by
  constructor
  · rintro ⟨_, holds, earlier⟩
    refine ⟨Nat.zero_le k, (same k).mp holds, ?_⟩
    intro j early _
    exact mt (same j).mpr (earlier (start + j) (Nat.add_lt_add_left early start)
      (Nat.le_add_right start j))
  · rintro ⟨_, holds, earlier⟩
    refine ⟨Nat.le_add_right start k, (same k).mpr holds, ?_⟩
    intro i early onward
    obtain ⟨j, rfl⟩ := Nat.exists_eq_add_of_le onward
    exact mt (same j).mp (earlier j (Nat.lt_of_add_lt_add_left early) (Nat.zero_le j))

theorem endsTag_iff_endsAhead (text : Text) (start k : Nat) :
    EndsTag text start (start + k) ↔ EndsAhead none none 0 (text.drop start) k := by
  rw [EndsTag, EndsAhead, List.getElem?_drop, List.drop_take, Nat.add_sub_cancel_left]

/-- From behind the name of an opening tag the search for its end passes the first bracket
that stands in no quoted value and between no braces, and finds the tag to end with `/>` if
and only if a slash is the byte before that bracket. If there is no such bracket, it comes to
the end of the text and finds no slash. -/
theorem attributes_end_at_own_bracket {text : Text} {c : Cursor} (stands : c.StandsIn text)
    (named : ∃ b, c.before.head? = some b ∧ TagName.isPart b = true) :
    let start := c.position.offset
    let rest := attributes c.before.head? none 0 0 c.after
    let closed := c.advance rest.length
    (∀ i, FirstFrom start (EndsTag text start) i →
      closed.position.offset = i + 1 ∧
        (rest.selfClosing = true ↔ text[i - 1]? = some Byte.slash)) ∧
    ((∀ i, start ≤ i → ¬ EndsTag text start i) →
      closed.position.offset = text.length ∧ rest.selfClosing = false) := by
  intro start rest closed
  have room := stands.offset_add
  have after : c.after = text.drop start := stands.after_eq
  have forgotten : rest = attributes none none 0 0 c.after := Markup.attributes_forget ..
  have landed : closed.position.offset = start + (c.after.take rest.length).length := by
    rw [show closed = _ from Cursor.advance_eq _ _, Position.past_offset]
  have unquoted : ∀ q ∈ (none : Option UInt8), Byte.isQuote q := fun q among => by cases among
  refine ⟨?_, ?_⟩
  · intro i first
    obtain ⟨k, rfl⟩ := Nat.exists_eq_add_of_le first.1
    rw [firstFrom_add_iff (endsTag_iff_endsAhead text start), ← after] at first
    have found := attributes_of_first unquoted first
    have inside : k < c.after.length := (List.getElem?_eq_some_iff.mp first.2.1.1).1
    rw [landed, forgotten, found, List.length_take]
    refine ⟨by simp only; omega, ?_⟩
    rw [decide_eq_true_iff]
    cases k with
    | zero =>
        -- The byte before the bracket is the last one of the name.
        obtain ⟨b, last, part⟩ := named
        have entered : 0 < c.position.offset := by
          rw [stands.offset_eq, List.length_pos_iff]
          rintro nothing
          rw [nothing] at last
          cases last
        have behind : text[start + 0 - 1]? = some b := by
          rw [Nat.add_zero, stands.getElem?_behind entered, last]
        refine iff_of_false (fun slash => absurd slash.1 (Nat.lt_irrefl 0)) ?_
        rw [behind, Option.some.injEq]
        rintro rfl
        exact absurd part (by decide)
    | succ k =>
        rw [after, List.getElem?_drop]
        exact and_iff_right (Nat.succ_pos k)
  · intro never
    have endless : ∀ k, ¬ EndsAhead none none 0 (text.drop start) k := fun k =>
      mt (endsTag_iff_endsAhead text start k).mpr (never _ (Nat.le_add_right _ _))
    have found := attributes_of_endless endless
    rw [← after] at found
    rw [landed, forgotten, found, List.take_length]
    exact ⟨room, rfl⟩

theorem attributes_end_at_own_bracket_quoted :
    let text : Text := "<a b='\\'>' c={x > y}/>z".toUTF8.toList
    let c := (Cursor.ofText text).advance 2
    let rest := attributes c.before.head? none 0 0 c.after
    c.StandsIn text ∧ (∃ b, c.before.head? = some b ∧ TagName.isPart b = true) ∧
      FirstFrom c.position.offset (EndsTag text c.position.offset) 21 ∧
      (c.advance rest.length).position.offset = 22 ∧
      (rest.selfClosing = true ↔ text[20]? = some Byte.slash) := by
  intro text c rest
  have start : (Cursor.ofText text).StandsIn text := ⟨rfl, rfl⟩
  have stands : c.StandsIn text := start.advance 2
  have named : ∃ b, c.before.head? = some b ∧ TagName.isPart b = true :=
    ⟨0x61, by decide +kernel, by decide⟩
  have first : FirstFrom c.position.offset (EndsTag text c.position.offset) 21 := by
    decide +kernel
  exact ⟨stands, named, first, (attributes_end_at_own_bracket stands named).1 21 first⟩

end TagCheck
