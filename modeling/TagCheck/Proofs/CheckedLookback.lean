/-
# Looking back by index

The classifier takes the bytes before a bracket as a list. Here it looks at them by index,
from the offset of the bracket: three searches backwards give the nearest byte that is not
whitespace, the word that ends there, and the nearest byte before that word
(`Landmarks`). The rules then ask for single bytes and for the word, and every index is
one that a search has given, or the one before it.

`explain_eq` says that none of this reads outside of the text or goes below zero, and that
it comes to what `classify` says.
-/

import TagCheck.Proofs.CheckedAccess

namespace TagCheck.Checked

/-! ## Searching backwards -/

/-- The index of the last byte of the kind sought. -/
def lastIndex? (sought : UInt8 → Bool) : Text → Option Nat
  | [] => none
  | b :: rest =>
      match lastIndex? sought rest with
      | some i => some (i + 1)
      | none => if sought b then some 0 else none

/-- The index of the nearest of the bytes that are left, given nearest first. -/
def nearest? : List UInt8 → Option Nat
  | [] => none
  | _ :: far => some far.length

theorem lastIndex?_concat (sought : UInt8 → Bool) (text : Text) (b : UInt8) :
    lastIndex? sought (text ++ [b]) =
      if sought b then some text.length else lastIndex? sought text := by
  induction text with
  | nil => rfl
  | cons first rest ih =>
      rw [List.cons_append, lastIndex?, ih, lastIndex?]
      cases sought b <;> rfl

/-- Searching backwards for a byte of no kind `p` is dropping those of the kind. -/
theorem lastIndex?_reverse (p : UInt8 → Bool) (before : List UInt8) :
    lastIndex? (!p ·) before.reverse = nearest? (before.dropWhile p) := by
  induction before with
  | nil => rfl
  | cons b far ih =>
      rw [List.reverse_cons, lastIndex?_concat, List.dropWhile_cons]
      cases passes : p b with
      | true => exact ih
      | false => exact congrArg some List.length_reverse

/-- Where the word that a text ends with begins. -/
def wordStart (text : Text) : Nat :=
  match lastIndex? (!Byte.isWord ·) text with
  | some i => i + 1
  | none => 0

theorem wordStart_reverse (before : List UInt8) :
    wordStart before.reverse = (before.dropWhile Byte.isWord).length := by
  rw [wordStart, lastIndex?_reverse]
  cases before.dropWhile Byte.isWord <;> rfl

/-! ## What the rules look at -/

/-- The places before a bracket that the rules look at. -/
structure Landmarks where
  /-- The nearest byte that is not whitespace. -/
  previous : Option Nat
  /-- Where the word that ends there begins and stops. -/
  start : Nat
  stop : Nat
  /-- The nearest byte before the word that is not a blank. -/
  beforeWord : Option Nat
  deriving DecidableEq, Repr

namespace Landmarks

variable (text : Text) (site : Nat)

/-- Look at the text before the bracket at `site`. -/
def find : Checked Landmarks := do
  let passed ← slice text 0 site
  match lastIndex? (!Byte.isWhitespace ·) passed with
  | none => pure ⟨none, 0, 0, none⟩
  | some last => do
      let trimmed ← slice text 0 (last + 1)
      let beyond ← slice text 0 (wordStart trimmed)
      pure ⟨some last, wordStart trimmed, last + 1, lastIndex? (!Byte.isBlank ·) beyond⟩

variable (m : Landmarks)

/-- The byte at a place, if there is one. -/
def byteAt? : Option Nat → Checked (Option UInt8)
  | none => pure none
  | some i => do
      let b ← byteAt text i
      pure (some b)

/-- Whether the byte at a place follows the byte `b` directly. -/
def follows (b : UInt8) : Option Nat → Checked Bool
  | none => pure false
  | some i =>
      if i = 0 then pure false
      else do
        let previous ← byteBefore text i
        pure (previous == b)

def word : Checked Text := slice text m.start m.stop

/-- Whether a word touches the bracket. -/
def wordAbuts : Bool := m.start < m.stop && m.stop = site

/-- Whether a rule claims the bracket. -/
def applies : Rule → Checked Bool
  | .annotated => do
      let previous ← byteAt? text m.previous
      pure (previous == some Byte.colon || previous == some Byte.closeBracket)
  | .typeKeyword => do
      let word ← m.word text
      pure (!word.isEmpty && Rule.typeKeywords.contains (Byte.spell word))
  | .abuttingGeneric =>
      if m.wordAbuts site then do
        let word ← m.word text
        let first ← byteAt word 0
        if Byte.isUpper first || Rule.genericCallees.contains (Byte.spell word) then pure true
        else follows text Byte.dot (some m.start)
      else pure false
  | .typePunctuation => do
      let before ← byteAt? text m.beforeWord
      pure (before.any Rule.typePunctuationBytes.contains)
  | .intersection => do
      let before ← byteAt? text m.beforeWord
      if before = some Byte.ampersand then do
        let doubled ← follows text Byte.ampersand m.beforeWord
        pure (!doubled)
      else pure false

end Landmarks

/-- The rule that makes the bracket at `site` one of the type level. -/
def explain (text : Text) (site : Nat) : Checked (Option Rule) := do
  let landmarks ← Landmarks.find text site
  Rule.table.findM? (landmarks.applies text site)

/-! ## Agreement with the classifier -/

section Agreement

variable (before : List UInt8) (after : Text)

/-- Where the pieces of a lookbehind are. -/
def landmarksOf : Landmarks where
  previous := nearest? (before.dropWhile Byte.isWhitespace)
  start := (Lookbehind.ofBefore before).beyond.length
  stop := (before.dropWhile Byte.isWhitespace).length
  beforeWord := nearest? (Lookbehind.ofBefore before).anchor

theorem trimmed_suffix : before.dropWhile Byte.isWhitespace <:+ before :=
  List.dropWhile_suffix _

theorem beyond_suffix : (Lookbehind.ofBefore before).beyond <:+ before :=
  (List.dropWhile_suffix _).trans (trimmed_suffix before)

theorem anchor_suffix : (Lookbehind.ofBefore before).anchor <:+ before :=
  (List.dropWhile_suffix _).trans (beyond_suffix before)

theorem find_eq :
    Landmarks.find (before.reverse ++ after) before.length = .ok (landmarksOf before) := by
  have passed := slice_front (List.suffix_refl before) after
  have trimmed := slice_front (trimmed_suffix before) after
  have beyond := slice_front (beyond_suffix before) after
  rw [Landmarks.find, passed, ok_bind, lastIndex?_reverse]
  unfold landmarksOf
  cases cut : before.dropWhile Byte.isWhitespace with
  | nil =>
      have nothing : (Lookbehind.ofBefore before).beyond = [] := by
        rw [Lookbehind.ofBefore, cut]
        rfl
      rw [Lookbehind.anchor, nothing]
      rfl
  | cons last far =>
      have start : wordStart (last :: far).reverse =
          (Lookbehind.ofBefore before).beyond.length := by
        rw [wordStart_reverse, ← cut]
        rfl
      rw [cut, List.length_cons] at trimmed
      simp only [nearest?, trimmed, ok_bind, start, beyond, lastIndex?_reverse]
      rfl

variable {before} in
theorem byteAt?_eq {near : List UInt8} (passed : near <:+ before) :
    Landmarks.byteAt? (before.reverse ++ after) (nearest? near) = .ok near.head? := by
  cases near with
  | nil => rfl
  | cons b far =>
      rw [nearest?, Landmarks.byteAt?, byteAt_behind passed]
      rfl

variable {before} in
theorem follows_eq {far : List UInt8} (passed : far <:+ before) (b : UInt8) :
    Landmarks.follows (before.reverse ++ after) b (some far.length) =
      .ok (far.head? == some b) := by
  cases far with
  | nil => rfl
  | cons previous far =>
      rw [Landmarks.follows, if_neg (List.length_pos_of_mem List.mem_cons_self).ne',
        byteBefore_behind passed]
      rfl

theorem word_eq_ofBefore :
    (landmarksOf before).word (before.reverse ++ after) =
      .ok (Lookbehind.ofBefore before).word := by
  have cut := List.takeWhile_append_dropWhile (p := Byte.isWord)
    (l := before.dropWhile Byte.isWhitespace)
  have passed := slice_behind (cut ▸ trimmed_suffix before) after
  rw [cut] at passed
  exact passed

theorem previous_eq :
    (Lookbehind.ofBefore before).previous = (before.dropWhile Byte.isWhitespace).head? := by
  simp only [Lookbehind.previous, Lookbehind.ofBefore, List.getLast?_reverse]
  cases before.dropWhile Byte.isWhitespace with
  | nil => rfl
  | cons b far =>
      rw [List.takeWhile_cons, List.dropWhile_cons]
      cases Byte.isWord b <;> rfl

theorem wordAbuts_eq :
    (landmarksOf before).wordAbuts before.length = (Lookbehind.ofBefore before).wordAbuts := by
  have cut := List.takeWhile_append_dropWhile (p := Byte.isWord)
    (l := before.dropWhile Byte.isWhitespace)
  have gap := List.takeWhile_append_dropWhile (p := Byte.isWhitespace) (l := before)
  have lengths := congrArg List.length cut
  have gaps := congrArg List.length gap
  rw [List.length_append] at lengths gaps
  rw [Bool.eq_iff_iff, Landmarks.wordAbuts, Bool.and_eq_true, decide_eq_true_iff,
    decide_eq_true_iff]
  simp only [Lookbehind.wordAbuts, landmarksOf, Lookbehind.ofBefore, Bool.and_eq_true,
    Bool.not_eq_true', List.isEmpty_eq_false_iff, List.isEmpty_iff, ← List.length_pos_iff,
    ← List.length_eq_zero_iff, List.length_reverse]
  omega

theorem applies_eq (rule : Rule) :
    (landmarksOf before).applies (before.reverse ++ after) before.length rule =
      .ok (rule.applies (Lookbehind.ofBefore before)) := by
  have nearest := byteAt?_eq after (trimmed_suffix before)
  have anchor := byteAt?_eq after (anchor_suffix before)
  rw [← previous_eq] at nearest
  cases rule with
  | annotated =>
      change (Landmarks.byteAt? _ (nearest? _) >>= _) = _
      rw [nearest]
      rfl
  | typeKeyword =>
      have nameless (word : Text) :
          (!word.isEmpty && Rule.typeKeywords.contains (Byte.spell word)) =
            Rule.typeKeywords.contains (Byte.spell word) := by
        cases word with
        | nil => rfl
        | cons first rest => rfl
      rw [Landmarks.applies, word_eq_ofBefore, ok_bind, nameless]
      rfl
  | abuttingGeneric =>
      simp only [Landmarks.applies, wordAbuts_eq, word_eq_ofBefore, Rule.applies]
      cases abuts : (Lookbehind.ofBefore before).wordAbuts with
      | false => rfl
      | true =>
          obtain ⟨first, rest, word⟩ : ∃ first rest,
              (Lookbehind.ofBefore before).word = first :: rest := by
            apply List.exists_cons_of_ne_nil
            rw [Lookbehind.wordAbuts, Bool.and_eq_true, Bool.not_eq_true',
              List.isEmpty_eq_false_iff] at abuts
            exact abuts.1
          have dot := follows_eq after (beyond_suffix before) Byte.dot
          simp only [if_true, ok_bind, word, byteAt, List.getElem?_cons_zero, List.head?_cons,
            Option.any_some, Lookbehind.wordText, Lookbehind.wordFollowsDot, Bool.true_and]
          split
          · rename_i named
            rw [named]
            rfl
          · rename_i unnamed
            rw [Bool.eq_false_iff.mpr unnamed, Bool.false_or]
            exact dot
  | typePunctuation =>
      change (Landmarks.byteAt? _ (nearest? _) >>= _) = _
      rw [anchor]
      rfl
  | intersection =>
      change (Landmarks.byteAt? _ (nearest? _) >>= _) = _
      rw [anchor, ok_bind]
      simp only [Rule.applies, Lookbehind.beforeWord, Lookbehind.anchorFollowsAmpersand]
      split
      · rename_i ampersand
        obtain ⟨far, cut⟩ := List.head?_eq_some_iff.mp ampersand
        have farther : far <:+ before :=
          (List.suffix_cons _ _).trans (cut ▸ anchor_suffix before)
        have doubled : Landmarks.follows (before.reverse ++ after) Byte.ampersand
            (landmarksOf before).beforeWord = .ok (far.head? == some Byte.ampersand) := by
          rw [landmarksOf, cut]
          exact follows_eq after farther Byte.ampersand
        rw [doubled, cut]
        rfl
      · rename_i other
        rw [beq_eq_false_iff_ne.mpr other]
        rfl

theorem findM?_eq {α : Type} {p : α → Checked Bool} {q : α → Bool} (same : ∀ a, p a = .ok (q a))
    (list : List α) : list.findM? p = .ok (list.find? q) := by
  induction list with
  | nil => rfl
  | cons a rest ih =>
      rw [List.findM?, same, ok_bind, List.find?_cons]
      cases q a with
      | true => rfl
      | false => exact ih

/-- Looking back by index meets no fault, and finds what the classifier finds. -/
theorem explain_eq : explain (before.reverse ++ after) before.length = .ok (classify before) := by
  rw [explain, find_eq, ok_bind, findM?_eq (applies_eq before after)]
  rfl

end Agreement

end TagCheck.Checked
