/-
# Bytes that hide what stands before them

A byte hides what stands before it if that has no part in how a bracket behind the byte is
classified, whether the bracket is right behind it or far away. Three kinds of bytes do not:

- whitespace, past which the classifier looks for the word before the bracket,
- the bytes of words, past which it looks for punctuation of types,
- the ampersand, past which it looks for a second one, though no further
  (`classify_behind_ampersand`).

For each kind a text is given here that shows this, with one byte before and with none
(`seen_past_whitespace`, `seen_past_word`, `seen_past_ampersand`). Every other byte stops all the
searches of the classifier (`classify_behind`). So the bytes that hide are known exactly
(`before_hidden_iff`).
-/

import TagCheck.Proofs.BracketRules
import TagCheck.Proofs.Lookback

namespace TagCheck

/-! ## A word of one letter

A word says something of its own only as a keyword or where it touches the bracket. One letter with
a gap behind it does neither, so what stands before it decides. -/

theorem not_isWhitespace_of_isWord {x : UInt8} (word : Byte.isWord x = true) :
    Byte.isWhitespace x = false := by
  simp only [Byte.isWord, Byte.isLetter, Byte.isUpper, Byte.isLower, Byte.isDigit,
    Byte.underscore] at word
  simp only [Byte.isWhitespace, Byte.isBlank, Byte.space, Byte.tab, Byte.lineFeed,
    Byte.carriageReturn]
  grind

theorem ofBefore_letter {x : UInt8} (word : Byte.isWord x = true) {far : List UInt8}
    (ends : far.head?.any Byte.isWord = false) :
    Lookbehind.ofBefore (Byte.space :: x :: far) = ⟨[Byte.space], [x], far⟩ := by
  have white : Byte.isWhitespace Byte.space = true := by decide
  have solid : ¬ Byte.isWhitespace x = true :=
    Bool.eq_false_iff.mp (not_isWhitespace_of_isWord word)
  have stops : far.takeWhile Byte.isWord = [] ∧ far.dropWhile Byte.isWord = far := by
    cases far with
    | nil => exact ⟨rfl, rfl⟩
    | cons b far =>
        have other : ¬ Byte.isWord b = true := Bool.eq_false_iff.mp ends
        exact ⟨List.takeWhile_cons_of_neg other, List.dropWhile_cons_of_neg other⟩
  rw [Lookbehind.ofBefore, List.dropWhile_cons_of_pos white, List.dropWhile_cons_of_neg solid,
    List.takeWhile_cons_of_pos white, List.takeWhile_cons_of_neg solid,
    List.takeWhile_cons_of_pos word, List.dropWhile_cons_of_pos word, stops.1, stops.2]
  rfl

theorem typeKeyword_letter {x : UInt8} (word : Byte.isWord x = true) (gap far : List UInt8) :
    Rule.typeKeyword.applies ⟨gap, [x], far⟩ = false := by
  have plain : ∀ name ∈ Rule.typeKeywords, Byte.spell (Byte.letters name) = name := by
    decide +kernel
  have longer : ∀ name ∈ Rule.typeKeywords, 1 < (Byte.letters name).length := by
    decide +kernel
  rw [Rule.applies, Lookbehind.wordText, ← Bool.not_eq_true, contains_spell_iff plain]
  · rintro ⟨name, among, alone⟩
    have long := longer name among
    rw [← alone] at long
    exact Nat.lt_irrefl 1 long
  · exact List.forall_mem_singleton.mpr (isAscii_of_isWord word)

/-- The rules that look at the word pass over a single letter with a gap behind it. -/
theorem classify_past_letter {x : UInt8} (word : Byte.isWord x = true) {far : List UInt8}
    (ends : far.head?.any Byte.isWord = false) :
    classify (Byte.space :: x :: far) =
      [Rule.typePunctuation, .intersection].find? (·.applies ⟨[Byte.space], [x], far⟩) := by
  have notColon : x ≠ Byte.colon := by
    rintro rfl
    exact absurd word (by decide)
  have notBracket : x ≠ Byte.closeBracket := by
    rintro rfl
    exact absurd word (by decide)
  have annotated : Rule.annotated.applies ⟨[Byte.space], [x], far⟩ = false := by
    simp [Rule.applies, Lookbehind.previous, notColon, notBracket]
  have keyword := typeKeyword_letter word [Byte.space] far
  have abutting : Rule.abuttingGeneric.applies ⟨[Byte.space], [x], far⟩ = false := rfl
  rw [classify, ofBefore_letter word ends, Rule.table, List.find?_cons, annotated,
    List.find?_cons, keyword, List.find?_cons, abutting]

/-! ## What does not hide -/

theorem seen_past_whitespace {x : UInt8} (white : Byte.isWhitespace x = true) :
    classify [x, Byte.comma] ≠ classify [x] := by
  have gap : ∀ b ∈ [x], Byte.isWhitespace b := List.forall_mem_singleton.mpr white
  have space : ∀ b ∈ [Byte.space], Byte.isWhitespace b :=
    List.forall_mem_singleton.mpr (by decide)
  have same (before : List UInt8) : classify (x :: before) = classify (Byte.space :: before) :=
    classify_behind_gap gap space (List.cons_ne_nil _ _) (List.cons_ne_nil _ _) before
  rw [same, same]
  decide +kernel

theorem seen_past_word {x : UInt8} (word : Byte.isWord x = true) :
    classify [Byte.space, x, Byte.comma] ≠ classify [Byte.space, x] := by
  have behindComma : classify [Byte.space, x, Byte.comma] = some .typePunctuation :=
    classify_past_letter word (by decide)
  have atStart : classify [Byte.space, x] = none := classify_past_letter word (by decide)
  rw [behindComma, atStart]
  exact Option.some_ne_none _

theorem seen_past_ampersand :
    classify [Byte.ampersand, Byte.ampersand] ≠ classify [Byte.ampersand] := by
  decide +kernel

/-! ## What hides -/

theorem classify_at_bracket (front near rest : Text) (x : UInt8) :
    classify ((front ++ [x] ++ near ++ Byte.lessThan :: rest).take
        (front ++ [x] ++ near).length).reverse =
      classify (near.reverse ++ x :: front.reverse) := by
  rw [List.take_left, List.reverse_append, List.reverse_append, List.reverse_singleton,
    List.singleton_append]

/-- What stands before a byte has no part in how the brackets behind it are classified if, and
only if, the byte is no whitespace, no part of a word and no ampersand. -/
theorem before_hidden_iff (x : UInt8) :
    (∀ front other near rest : Text,
      classify ((front ++ [x] ++ near ++ Byte.lessThan :: rest).take
          (front ++ [x] ++ near).length).reverse =
        classify ((other ++ [x] ++ near ++ Byte.lessThan :: rest).take
          (other ++ [x] ++ near).length).reverse) ↔
      Byte.isWhitespace x = false ∧ Byte.isWord x = false ∧ x ≠ Byte.ampersand := by
  simp only [classify_at_bracket]
  constructor
  · intro hidden
    refine ⟨?_, ?_, ?_⟩
    · rw [← Bool.not_eq_true]
      intro white
      exact seen_past_whitespace white (hidden [Byte.comma] [] [] [])
    · rw [← Bool.not_eq_true]
      intro word
      exact seen_past_word word (hidden [Byte.comma] [] [Byte.space] [])
    · rintro rfl
      exact seen_past_ampersand (hidden [Byte.ampersand] [] [] [])
  · rintro ⟨solid, endsWord, single⟩ front other near _
    exact classify_behind solid endsWord single near.reverse front.reverse other.reverse

end TagCheck
