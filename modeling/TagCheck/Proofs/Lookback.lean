/-
# How far the classifier looks back

The rules look at five things before a bracket only: whether a gap is there, the
word, the byte before the word, the byte before the blanks before the word, and,
if that is an ampersand, one byte more (`Lookbehind.Alike`). A byte that is no
whitespace, no part of a word and no ampersand therefore hides all that stands
before it (`classify_behind`), and an ampersand all but one byte
(`classify_behind_ampersand`). A line feed is whitespace and hides nothing at the
end of what is looked at, but it does so once anything other than whitespace
follows it (`classify_behind_line`).

At the start of a text there is nothing to see, and a byte that no rule looks for is no
different: what stands behind such a byte is classified as if it began the text
(`classify_behind_silent`).

Texts are given nearest byte first, as the classifier takes them.
-/

import Mathlib.Data.List.TakeWhile
import TagCheck.Markup.AngleBracket

namespace TagCheck

/-! A search that stops stops there, whatever follows. -/

theorem takeWhile_append_stop {p : UInt8 → Bool} {x : UInt8} (stops : p x = false)
    (near far : List UInt8) : (near ++ x :: far).takeWhile p = near.takeWhile p := by
  induction near with
  | nil => simp [stops]
  | cons b near ih =>
      rw [List.cons_append, List.takeWhile_cons, List.takeWhile_cons, ih]

theorem dropWhile_append_stop {p : UInt8 → Bool} {x : UInt8} (stops : p x = false)
    (near far : List UInt8) :
    (near ++ x :: far).dropWhile p = near.dropWhile p ++ x :: far := by
  induction near with
  | nil => simp [stops]
  | cons b near ih =>
      rw [List.cons_append, List.dropWhile_cons, List.dropWhile_cons, ih]
      split <;> rfl

theorem head?_append_cons {near : List UInt8} {x : UInt8} {far other : List UInt8} :
    (near ++ x :: other).head? = (near ++ x :: far).head? := by
  cases near <;> rfl

namespace Lookbehind

/-- Two lookbehinds that no rule tells apart. -/
structure Alike (l m : Lookbehind) : Prop where
  gap : l.gap.isEmpty = m.gap.isEmpty
  word : l.word = m.word
  nearest : l.beyond.head? = m.beyond.head?
  anchor : l.beforeWord = m.beforeWord
  ampersands : l.beforeWord = some Byte.ampersand →
    l.anchorFollowsAmpersand = m.anchorFollowsAmpersand

theorem Alike.applies_eq {l m : Lookbehind} (alike : l.Alike m) (rule : Rule) :
    rule.applies l = rule.applies m := by
  cases rule with
  | annotated => simp only [Rule.applies, previous, alike.word, alike.nearest]
  | typeKeyword => simp only [Rule.applies, wordText, alike.word]
  | abuttingGeneric =>
      simp only [Rule.applies, wordAbuts, wordText, wordFollowsDot, alike.word, alike.gap,
        alike.nearest]
  | typePunctuation => simp only [Rule.applies, alike.anchor]
  | intersection =>
      by_cases ampersand : l.beforeWord = some Byte.ampersand
      · simp only [Rule.applies, ← alike.anchor, alike.ampersands ampersand]
      · simp only [Rule.applies, ← alike.anchor, beq_eq_false_iff_ne.mpr ampersand,
          Bool.false_and]

/-- The cut of a text whose whitespace at the end is known. -/
def ofTrimmed (gap trimmed : List UInt8) : Lookbehind :=
  ⟨gap, (trimmed.takeWhile Byte.isWord).reverse, trimmed.dropWhile Byte.isWord⟩

theorem ofBefore_eq_ofTrimmed (before : List UInt8) :
    ofBefore before =
      ofTrimmed (before.takeWhile Byte.isWhitespace) (before.dropWhile Byte.isWhitespace) :=
  rfl

/-- Behind a byte that ends words and blanks nothing is seen, except for one byte behind an
ampersand. -/
theorem alike_ofTrimmed {gap gap' near far far' : List UInt8} {x : UInt8}
    (gaps : gap.isEmpty = gap'.isEmpty) (endsWord : Byte.isWord x = false)
    (endsBlanks : Byte.isBlank x = false)
    (peek : x = Byte.ampersand → far.head? = far'.head?) :
    (ofTrimmed gap (near ++ x :: far)).Alike (ofTrimmed gap' (near ++ x :: far')) where
  gap := gaps
  word := by simp only [ofTrimmed, takeWhile_append_stop endsWord]
  nearest := by
    simp only [ofTrimmed, dropWhile_append_stop endsWord]
    exact head?_append_cons
  anchor := by
    simp only [ofTrimmed, beforeWord, Lookbehind.anchor, dropWhile_append_stop endsWord,
      dropWhile_append_stop endsBlanks]
    exact head?_append_cons
  ampersands := by
    simp only [ofTrimmed, beforeWord, anchorFollowsAmpersand, Lookbehind.anchor,
      dropWhile_append_stop endsWord, dropWhile_append_stop endsBlanks]
    -- The byte before an ampersand lies beyond `x` only if `x` is that ampersand.
    cases (near.dropWhile Byte.isWord).dropWhile Byte.isBlank with
    | nil =>
        intro ampersand
        exact congrArg (· == some Byte.ampersand) (peek (Option.some.inj ampersand))
    | cons b near =>
        intro _
        rw [List.cons_append, List.cons_append, List.tail_cons, List.tail_cons,
          head?_append_cons]

end Lookbehind

open Lookbehind in
theorem classify_eq_of_alike {before before' : List UInt8}
    (alike : (ofBefore before).Alike (ofBefore before')) :
    classify before = classify before' := by
  unfold classify
  congr 1
  funext rule
  exact alike.applies_eq rule

theorem isBlank_of_not_isWhitespace {x : UInt8} (solid : Byte.isWhitespace x = false) :
    Byte.isBlank x = false := by
  simp only [Byte.isWhitespace, Bool.or_eq_false_iff] at solid
  exact solid.1.1

/-- Of what stands before a byte that is no whitespace and no part of a word, at most one
byte has a part in the classification, and that only if the byte is an ampersand. -/
theorem classify_behind_of_peek {x : UInt8} (solid : Byte.isWhitespace x = false)
    (endsWord : Byte.isWord x = false) {far far' : List UInt8}
    (peek : x = Byte.ampersand → far.head? = far'.head?) (near : List UInt8) :
    classify (near ++ x :: far) = classify (near ++ x :: far') := by
  apply classify_eq_of_alike
  simp only [Lookbehind.ofBefore_eq_ofTrimmed, dropWhile_append_stop solid,
    takeWhile_append_stop solid]
  exact Lookbehind.alike_ofTrimmed rfl endsWord (isBlank_of_not_isWhitespace solid) peek

/-- What stands before a byte that is no whitespace, no part of a word and no
ampersand has no part in the classification. -/
theorem classify_behind {x : UInt8} (solid : Byte.isWhitespace x = false)
    (endsWord : Byte.isWord x = false) (single : x ≠ Byte.ampersand)
    (near far far' : List UInt8) :
    classify (near ++ x :: far) = classify (near ++ x :: far') :=
  classify_behind_of_peek solid endsWord (fun ampersand => absurd ampersand single) near

/-- An ampersand hides all but the byte before it. -/
theorem classify_behind_ampersand (near : List UInt8) (previous : UInt8)
    (far far' : List UInt8) :
    classify (near ++ Byte.ampersand :: previous :: far) =
      classify (near ++ Byte.ampersand :: previous :: far') := by
  have solid : Byte.isWhitespace Byte.ampersand = false := by decide
  have endsWord : Byte.isWord Byte.ampersand = false := by decide
  refine classify_behind_of_peek solid endsWord ?_ near
  intro _
  rfl

/-- Behind the start of a line nothing is seen from past the first byte of the line
that is no whitespace. -/
theorem classify_behind_line {near : List UInt8} (solid : ∃ b ∈ near, ¬ Byte.isWhitespace b)
    (far far' : List UInt8) :
    classify (near ++ Byte.lineFeed :: far) = classify (near ++ Byte.lineFeed :: far') := by
  apply classify_eq_of_alike
  have some' : near.dropWhile Byte.isWhitespace ≠ [] := by
    intro nothing
    obtain ⟨b, among, notWhite⟩ := solid
    exact notWhite (List.dropWhile_eq_nil_iff.mp nothing b among)
  have short : ¬ (near.takeWhile Byte.isWhitespace).length = near.length := by
    intro whole
    have cut := congrArg List.length
      (List.takeWhile_append_dropWhile (p := Byte.isWhitespace) (l := near))
    rw [List.length_append, whole] at cut
    exact some' (List.length_eq_zero_iff.mp (by omega))
  simp only [Lookbehind.ofBefore_eq_ofTrimmed, List.dropWhile_append, List.takeWhile_append,
    List.isEmpty_eq_false_iff.mpr some', if_neg short]
  exact Lookbehind.alike_ofTrimmed rfl (by decide) (by decide) fun ampersand =>
    absurd ampersand (by decide)

/-- Between a bracket and the text before it only the presence of whitespace counts. -/
theorem classify_behind_gap {gap gap' : List UInt8} (white : ∀ b ∈ gap, Byte.isWhitespace b)
    (white' : ∀ b ∈ gap', Byte.isWhitespace b) (filled : gap ≠ []) (filled' : gap' ≠ [])
    (before : List UInt8) : classify (gap ++ before) = classify (gap' ++ before) := by
  apply classify_eq_of_alike
  simp only [Lookbehind.ofBefore_eq_ofTrimmed, List.dropWhile_append_of_pos white,
    List.dropWhile_append_of_pos white', List.takeWhile_append_of_pos white,
    List.takeWhile_append_of_pos white']
  have gaps : (gap ++ before.takeWhile Byte.isWhitespace).isEmpty =
      (gap' ++ before.takeWhile Byte.isWhitespace).isEmpty := by
    rw [List.isEmpty_eq_false_iff.mpr (List.append_ne_nil_of_left_ne_nil filled _),
      List.isEmpty_eq_false_iff.mpr (List.append_ne_nil_of_left_ne_nil filled' _)]
  exact ⟨gaps, rfl, rfl, rfl, fun _ => rfl⟩

/-! ## Bytes that no rule looks for -/

/-- The bytes by which a rule recognises the type level, apart from those of words. -/
def signals : List UInt8 :=
  Byte.closeBracket :: Byte.dot :: Byte.ampersand :: Rule.typePunctuationBytes

namespace Lookbehind

/-- A lookbehind in a text with more before it. -/
def extended (l : Lookbehind) (far : List UInt8) : Lookbehind :=
  { l with beyond := l.beyond ++ far }

theorem ofBefore_append_cons {x : UInt8} (solid : Byte.isWhitespace x = false)
    (endsWord : Byte.isWord x = false) (near far : List UInt8) :
    ofBefore (near ++ x :: far) = (ofBefore near).extended (x :: far) := by
  simp only [ofBefore, extended, takeWhile_append_stop solid, dropWhile_append_stop solid,
    takeWhile_append_stop endsWord, dropWhile_append_stop endsWord]

theorem anchor_extended {x : UInt8} (endsBlanks : Byte.isBlank x = false) (l : Lookbehind)
    (far : List UInt8) : (l.extended (x :: far)).anchor = l.anchor ++ x :: far := by
  rw [anchor, extended, dropWhile_append_stop endsBlanks]
  rfl

/-- No rule tells a lookbehind that ends with a silent byte from one that ends there. -/
theorem applies_extended {x : UInt8} (endsBlanks : Byte.isBlank x = false)
    (silent : x ∉ signals) (l : Lookbehind) (far : List UInt8) (rule : Rule) :
    rule.applies (l.extended (x :: far)) = rule.applies l := by
  simp only [signals, Rule.typePunctuationBytes, List.mem_cons, not_or] at silent
  cases rule with
  | annotated =>
      obtain ⟨gap, word, beyond⟩ := l
      cases beyond with
      | cons b rest => rfl
      | nil =>
          simp only [Rule.applies, previous, extended, List.nil_append, List.head?_cons,
            List.head?_nil]
          cases word.getLast? with
          | some last => rfl
          | none => simp [silent]
  | typeKeyword => rfl
  | abuttingGeneric =>
      obtain ⟨gap, word, beyond⟩ := l
      cases beyond with
      | cons b rest => rfl
      | nil =>
          have dotless : (some x == some Byte.dot) = false := by simp [silent]
          simp only [Rule.applies, wordAbuts, wordText, wordFollowsDot, extended, List.nil_append,
            List.head?_cons, List.head?_nil, dotless]
          rfl
  | typePunctuation =>
      simp only [Rule.applies, beforeWord, anchor_extended endsBlanks]
      cases l.anchor with
      | cons b rest => rfl
      | nil => simp [Rule.typePunctuationBytes, silent]
  | intersection =>
      simp only [Rule.applies, beforeWord, anchorFollowsAmpersand, anchor_extended endsBlanks]
      cases l.anchor with
      | nil => simp [silent]
      | cons b rest =>
          cases rest with
          | cons c rest => rfl
          | nil => simp [silent]

end Lookbehind

/-- Behind a byte that no rule looks for, a bracket is classified as if the text began
there. -/
theorem classify_behind_silent {x : UInt8} (solid : Byte.isWhitespace x = false)
    (endsWord : Byte.isWord x = false) (silent : x ∉ signals) (near far : List UInt8) :
    classify (near ++ x :: far) = classify near := by
  unfold classify
  congr 1
  funext rule
  rw [Lookbehind.ofBefore_append_cons solid endsWord]
  exact Lookbehind.applies_extended (isBlank_of_not_isWhitespace solid) silent _ far rule

end TagCheck
