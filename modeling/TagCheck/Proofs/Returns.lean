/-
# Carriage returns before line feeds

A line may end with a line feed alone or with a carriage return before it. Here the second
text is made from the first (`withReturns`), and every search of the lexer is made on both. A
search is in step (`InStep`) if it comes to the same place of the two, and all are, with one
exception: a search for the end of a line ends behind the carriage return.

A carriage return is whitespace to the classifier. It does not count as a blank, but that does
not show: looking back, the classifier comes to the line feed behind it first.
-/

import TagCheck.Proofs.Lookback
import TagCheck.Proofs.Searches

namespace TagCheck

/-- Go through a text byte by byte, line feeds apart from others. -/
@[elab_as_elim]
theorem lineFeeds_induction {motive : Text → Prop} (text : Text) (nil : motive [])
    (lineFeed : ∀ rest, motive rest → motive (Byte.lineFeed :: rest))
    (other : ∀ b rest, b ≠ Byte.lineFeed → motive rest → motive (b :: rest)) : motive text := by
  induction text with
  | nil => exact nil
  | cons b rest ih =>
      by_cases lineEnds : b = Byte.lineFeed
      · exact lineEnds ▸ lineFeed rest ih
      · exact other b rest lineEnds ih

/-- A text with a carriage return put before every line feed. -/
def withReturns (text : Text) : Text :=
  text.flatMap fun b =>
    if b = Byte.lineFeed then [Byte.carriageReturn, Byte.lineFeed] else [b]

section Texts

variable {b : UInt8} (rest : Text)

theorem withReturns_lineFeed :
    withReturns (Byte.lineFeed :: rest) =
      Byte.carriageReturn :: Byte.lineFeed :: withReturns rest := rfl

theorem withReturns_cons (other : b ≠ Byte.lineFeed) :
    withReturns (b :: rest) = b :: withReturns rest := by
  rw [withReturns, List.flatMap_cons, if_neg other]
  rfl

theorem withReturns_append (first second : Text) :
    withReturns (first ++ second) = withReturns first ++ withReturns second :=
  List.flatMap_append

theorem withReturns_of_oneLine {line : Text} (oneLine : Byte.lineFeed ∉ line) :
    withReturns line = line := by
  induction line with
  | nil => rfl
  | cons b rest ih =>
      rw [withReturns_cons rest (List.ne_of_not_mem_cons oneLine).symm,
        ih (List.not_mem_of_not_mem_cons oneLine)]

/-- Only a line feed is hidden by what is put before it. -/
theorem head?_withReturns (sought : UInt8) (text : Text)
    (notReturn : sought ≠ Byte.carriageReturn) (notLineFeed : sought ≠ Byte.lineFeed) :
    ((withReturns text).head? == some sought) = (text.head? == some sought) := by
  induction text using lineFeeds_induction with
  | nil => rfl
  | lineFeed rest =>
      rw [withReturns_lineFeed, List.head?_cons, List.head?_cons,
        beq_eq_false_iff_ne.mpr fun same => notReturn (Option.some.inj same).symm,
        beq_eq_false_iff_ne.mpr fun same => notLineFeed (Option.some.inj same).symm]
  | other b rest lineEnds => rw [withReturns_cons rest lineEnds, List.head?_cons, List.head?_cons]

end Texts

/-- A front of a text becomes this front of the text with returns. -/
def InStep (text : Text) (count count' : Nat) : Prop :=
  (withReturns text).take count' = withReturns (text.take count)

namespace InStep

variable {text : Text} {count count' : Nat}

theorem drop (front : InStep text count count') :
    (withReturns text).drop count' = withReturns (text.drop count) := by
  have taken : (withReturns text).take count' = withReturns (text.take count) := front
  refine List.append_cancel_left (?_ : (withReturns text).take count' ++ _ = _)
  rw [List.take_append_drop, taken, ← withReturns_append, List.take_append_drop]

theorem zero (text : Text) : InStep text 0 0 := rfl

theorem lineFeed (front : InStep text count count') :
    InStep (Byte.lineFeed :: text) (count + 1) (count' + 2) := by
  rw [InStep, withReturns_lineFeed, List.take_succ_cons, List.take_succ_cons, List.take_succ_cons,
    withReturns_lineFeed, front]

theorem cons {b : UInt8} (other : b ≠ Byte.lineFeed) (front : InStep text count count') :
    InStep (b :: text) (count + 1) (count' + 1) := by
  rw [InStep, withReturns_cons _ other, List.take_succ_cons, List.take_succ_cons,
    withReturns_cons _ other, front]

theorem append {line : Text} (oneLine : Byte.lineFeed ∉ line) (front : InStep text count count') :
    InStep (line ++ text) (line.length + count) (line.length + count') := by
  rw [InStep, withReturns_append, withReturns_of_oneLine oneLine, List.take_length_add_append,
    List.take_length_add_append, withReturns_append, withReturns_of_oneLine oneLine, front]

end InStep

/-! ## What the classifier sees -/

/-- What has been passed of the text with returns, nearest byte first. -/
def behindReturns (before : List UInt8) : List UInt8 :=
  before.flatMap fun b =>
    if b = Byte.lineFeed then [Byte.lineFeed, Byte.carriageReturn] else [b]

section Behind

variable {b : UInt8}

theorem reverse_withReturns (text : Text) :
    (withReturns text).reverse = behindReturns text.reverse := by
  rw [withReturns, List.reverse_flatMap, behindReturns]
  congr 1
  funext b
  by_cases lineEnds : b = Byte.lineFeed
  · simp only [Function.comp_apply, if_pos lineEnds]
    rfl
  · simp only [Function.comp_apply, if_neg lineEnds]
    rfl

theorem behindReturns_lineFeed (far : List UInt8) :
    behindReturns (Byte.lineFeed :: far) =
      Byte.lineFeed :: Byte.carriageReturn :: behindReturns far := rfl

theorem behindReturns_cons (other : b ≠ Byte.lineFeed) (far : List UInt8) :
    behindReturns (b :: far) = b :: behindReturns far := by
  rw [behindReturns, List.flatMap_cons, if_neg other]
  rfl

theorem behindReturns_append (near far : List UInt8) :
    behindReturns (near ++ far) = behindReturns near ++ behindReturns far :=
  List.flatMap_append

/-- The nearest byte is the same, be it a line feed or not. -/
theorem head?_behindReturns (before : List UInt8) :
    (behindReturns before).head? = before.head? := by
  induction before using lineFeeds_induction with
  | nil => rfl
  | lineFeed far => rw [behindReturns_lineFeed, List.head?_cons, List.head?_cons]
  | other b far lineEnds => rw [behindReturns_cons lineEnds, List.head?_cons, List.head?_cons]

theorem behindReturns_of_oneLine {line : List UInt8} (oneLine : Byte.lineFeed ∉ line) :
    behindReturns line = line := by
  have oneLine' : Byte.lineFeed ∉ line.reverse := fun among =>
    oneLine (List.mem_reverse.mp among)
  have reversed := reverse_withReturns line.reverse
  rw [withReturns_of_oneLine oneLine', List.reverse_reverse] at reversed
  exact reversed.symm

section Classes

variable {p : UInt8 → Bool} (same : p Byte.carriageReturn = p Byte.lineFeed)

include same

/-! A search that treats both bytes of a line ending alike stops at the same place. -/

theorem dropWhile_behindReturns (before : List UInt8) :
    (behindReturns before).dropWhile p = behindReturns (before.dropWhile p) := by
  induction before using lineFeeds_induction with
  | nil => rfl
  | lineFeed far ih =>
      rw [behindReturns_lineFeed]
      by_cases passes : p Byte.lineFeed = true
      · rw [List.dropWhile_cons_of_pos passes, List.dropWhile_cons_of_pos (same.trans passes), ih,
          List.dropWhile_cons_of_pos passes]
      · rw [List.dropWhile_cons_of_neg passes, List.dropWhile_cons_of_neg passes,
          behindReturns_lineFeed]
  | other b far lineEnds ih =>
      rw [behindReturns_cons lineEnds]
      by_cases passes : p b = true
      · rw [List.dropWhile_cons_of_pos passes, List.dropWhile_cons_of_pos passes, ih]
      · rw [List.dropWhile_cons_of_neg passes, List.dropWhile_cons_of_neg passes,
          behindReturns_cons lineEnds]

theorem takeWhile_behindReturns (before : List UInt8) :
    (behindReturns before).takeWhile p = behindReturns (before.takeWhile p) := by
  have whole : (behindReturns before).takeWhile p ++ (behindReturns before).dropWhile p =
      behindReturns (before.takeWhile p) ++ behindReturns (before.dropWhile p) := by
    rw [List.takeWhile_append_dropWhile, ← behindReturns_append, List.takeWhile_append_dropWhile]
  rw [dropWhile_behindReturns same] at whole
  exact List.append_cancel_right whole

end Classes

open Lookbehind in
/-- No rule tells the two kinds of line endings apart. -/
theorem lookbehind_behindReturns (before : List UInt8) :
    (ofBefore (behindReturns before)).Alike (ofBefore before) := by
  simp only [ofBefore, dropWhile_behindReturns (p := Byte.isWhitespace) rfl,
    takeWhile_behindReturns (p := Byte.isWhitespace) rfl,
    dropWhile_behindReturns (p := Byte.isWord) rfl,
    takeWhile_behindReturns (p := Byte.isWord) rfl]
  generalize before.dropWhile Byte.isWhitespace = trimmed
  refine ⟨?_, ?_, head?_behindReturns _, ?_, ?_⟩
  · rw [Bool.eq_iff_iff, List.isEmpty_iff, List.isEmpty_iff, ← List.head?_eq_none_iff,
      ← List.head?_eq_none_iff, head?_behindReturns]
  · have oneLine : Byte.lineFeed ∉ trimmed.takeWhile Byte.isWord := fun among =>
      absurd (List.mem_takeWhile_imp among) (by decide)
    exact congrArg List.reverse (behindReturns_of_oneLine oneLine)
  · simp only [beforeWord, anchor, dropWhile_behindReturns (p := Byte.isBlank) rfl]
    exact head?_behindReturns _
  · simp only [beforeWord, anchorFollowsAmpersand, anchor,
      dropWhile_behindReturns (p := Byte.isBlank) rfl]
    cases (trimmed.dropWhile Byte.isWord).dropWhile Byte.isBlank with
    | nil =>
        intro ampersand
        cases ampersand
    | cons b far =>
        intro ampersand
        rw [head?_behindReturns, List.head?_cons] at ampersand
        cases ampersand
        rw [behindReturns_cons (by decide), List.tail_cons, List.tail_cons, head?_behindReturns]

theorem classify_behindReturns (before : List UInt8) :
    classify (behindReturns before) = classify before :=
  classify_eq_of_alike (lookbehind_behindReturns before)

end Behind

/-! ## Searches -/

/-- A search that treats both bytes of a line ending as others ends with the same byte. -/
theorem distance_inStep {sought : UInt8 → Bool} (notReturn : sought Byte.carriageReturn = false)
    (notLineFeed : sought Byte.lineFeed = false) (text : Text) :
    InStep text (distance sought text + 1) (distance sought (withReturns text) + 1) := by
  induction text using lineFeeds_induction with
  | nil => rfl
  | lineFeed rest ih =>
      have far : distance sought (withReturns (Byte.lineFeed :: rest)) =
          distance sought (withReturns rest) + 2 := by
        simp only [distance, withReturns_lineFeed, List.findIdx_cons, notReturn, notLineFeed,
          cond_false]
      have near : distance sought (Byte.lineFeed :: rest) = distance sought rest + 1 := by
        simp only [distance, List.findIdx_cons, notLineFeed, cond_false]
      rw [far, near]
      exact ih.lineFeed
  | other b rest lineEnds ih =>
      rw [withReturns_cons rest lineEnds]
      cases found : sought b with
      | true =>
          simp only [distance, List.findIdx_cons, found, cond_true]
          exact (InStep.zero rest).cons lineEnds
      | false =>
          simp only [distance, List.findIdx_cons, found, cond_false]
          exact ih.cons lineEnds

/-- A search for the end of the line comes to the carriage return first, and passes it. -/
theorem distance_of_lineFeed (sought : UInt8 → Bool)
    (notReturn : sought Byte.carriageReturn = false) (lineFeed : sought Byte.lineFeed = true)
    (text : Text) :
    InStep text (distance sought text) (distance sought (withReturns text)) ∨
      ∃ rest count, text.drop (distance sought text) = Byte.lineFeed :: rest ∧
        InStep text (distance sought text) count ∧
        distance sought (withReturns text) = count + 1 := by
  induction text using lineFeeds_induction with
  | nil => exact .inl rfl
  | lineFeed rest =>
      refine .inr ⟨rest, 0, ?_, ?_, ?_⟩
      · simp only [distance, List.findIdx_cons, lineFeed, cond_true, List.drop_zero]
      · simp only [distance, List.findIdx_cons, lineFeed, cond_true]
        exact .zero _
      · simp only [distance, withReturns_lineFeed, List.findIdx_cons, notReturn, lineFeed,
          cond_true, cond_false]
  | other b rest lineEnds ih =>
      rw [withReturns_cons rest lineEnds]
      cases found : sought b with
      | true =>
          simp only [distance, List.findIdx_cons, found, cond_true]
          exact .inl (.zero _)
      | false =>
          simp only [distance, List.findIdx_cons, found, cond_false, List.drop_succ_cons]
          rcases ih with same | ⟨tail, count, left, front, far⟩
          · exact .inl (same.cons lineEnds)
          · exact .inr ⟨tail, count + 1, left, front.cons lineEnds, congrArg (· + 1) far⟩

theorem takeWhile_isPart_withReturns (text : Text) :
    (withReturns text).takeWhile TagName.isPart = text.takeWhile TagName.isPart := by
  induction text using lineFeeds_induction with
  | nil => rfl
  | lineFeed rest =>
      rw [withReturns_lineFeed, List.takeWhile_cons_of_neg (by decide),
        List.takeWhile_cons_of_neg (by decide)]
  | other b rest lineEnds ih =>
      rw [withReturns_cons rest lineEnds, List.takeWhile_cons, List.takeWhile_cons, ih]

/-- A name has no line ending in it. -/
theorem bytes_withReturns (limit : Nat) (text : Text) :
    TagName.bytes limit (withReturns text) = TagName.bytes limit text := by
  rw [TagName.bytes, TagName.bytes, takeWhile_isPart_withReturns]

theorem lineFeed_not_mem_bytes (limit : Nat) (text : Text) :
    Byte.lineFeed ∉ TagName.bytes limit text := fun among =>
  absurd (List.mem_takeWhile_imp (List.mem_of_mem_take among)) (by decide)

/-- While a bracket is open, a line ending is passed like any other byte. -/
theorem typeArgumentsLength_inStep {depth : Nat} (opened : 0 < depth) (text : Text) :
    InStep text (typeArgumentsLength depth 0 text)
      (typeArgumentsLength depth 0 (withReturns text)) := by
  induction text using lineFeeds_induction generalizing depth with
  | nil => exact .zero []
  | lineFeed rest ih =>
      have still : bracketsOpen depth Byte.lineFeed = depth := rfl
      have still' : bracketsOpen depth Byte.carriageReturn = depth := rfl
      rw [withReturns_lineFeed, typeArgumentsLength_cons, still, if_neg opened.ne',
        typeArgumentsLength_cons, still', if_neg opened.ne', typeArgumentsLength_cons, still,
        if_neg opened.ne', typeArgumentsLength_passed _ (0 + 1),
        typeArgumentsLength_passed _ (0 + 1 + 1), Nat.add_comm, Nat.add_comm (0 + 1 + 1)]
      exact (ih opened).lineFeed
  | other b rest lineEnds ih =>
      rw [withReturns_cons rest lineEnds, typeArgumentsLength_cons, typeArgumentsLength_cons]
      by_cases closed : bracketsOpen depth b = 0
      · rw [if_pos closed, if_pos closed]
        exact (InStep.zero rest).cons lineEnds
      · rw [if_neg closed, if_neg closed, typeArgumentsLength_passed _ (0 + 1),
          typeArgumentsLength_passed _ (0 + 1) (withReturns rest), Nat.add_comm,
          Nat.add_comm (0 + 1)]
        exact (ih (Nat.pos_of_ne_zero closed)).cons lineEnds

/-- The bytes of a line ending change nothing in the search for the end of a tag. -/
theorem attributes_lineEnding {quote : Option UInt8} (quotes : ∀ q ∈ quote, Byte.isQuote q)
    {b : UInt8} (ends : b ∈ [Byte.carriageReturn, Byte.lineFeed]) (previous : Option UInt8)
    (depth passed : Nat) (text : Text) :
    attributes previous quote depth passed (b :: text) =
      attributes (some b) quote depth (passed + 1) text := by
  have plain : Byte.isQuote b = false ∧ b ≠ Byte.openBrace ∧ b ≠ Byte.closeBrace ∧
      b ≠ Byte.slash ∧ b ≠ Byte.greaterThan := by
    rcases List.mem_cons.mp ends with rfl | ends
    · decide
    · cases List.mem_singleton.mp ends
      decide
  obtain ⟨unquoted, opensNone, closesNone, notSlash, notBracket⟩ := plain
  rw [attributes_cons]
  cases quote with
  | some q =>
      have other : b ≠ q := by
        rintro rfl
        exact absurd (quotes b rfl) (Bool.eq_false_iff.mp unquoted)
      simp only [tagEnd?, quoteAfter, bracesAfter, other, decide_false, Bool.false_and,
        Bool.false_eq_true, if_false]
  | none =>
      simp only [tagEnd?, quoteAfter, bracesAfter, unquoted, opensNone, closesNone, notSlash,
        notBracket, decide_false, Bool.false_and, Bool.false_eq_true, if_false, ite_self]

/-- The bracket behind a slash is not hidden by a line ending, nor does one pass for it. -/
theorem tagEnd?_withReturns (depth : Nat) (b : UInt8) (rest : Text) (quote : Option UInt8) :
    tagEnd? depth b (withReturns rest).head? quote = tagEnd? depth b rest.head? quote := by
  cases quote with
  | some q => rfl
  | none => simp only [tagEnd?, head?_withReturns Byte.greaterThan rest (by decide) (by decide)]

theorem quoteAfter_quotes {previous quote : Option UInt8} (b : UInt8)
    (quotes : ∀ q ∈ quote, Byte.isQuote q) : ∀ q ∈ quoteAfter previous b quote, Byte.isQuote q := by
  cases quote with
  | some q =>
      rw [quoteAfter]
      split
      · intro q among
        cases among
      · exact quotes
  | none =>
      rw [quoteAfter]
      split
      · rename_i opens
        intro q among
        cases among
        exact opens
      · intro q among
        cases among

/-- Where a tag ends does not depend on line endings. -/
theorem attributes_inStep (previous : Option UInt8) {quote : Option UInt8}
    (quotes : ∀ q ∈ quote, Byte.isQuote q) (depth : Nat) (text : Text) :
    InStep text (attributes previous quote depth 0 text).length
        (attributes previous quote depth 0 (withReturns text)).length ∧
      (attributes previous quote depth 0 (withReturns text)).selfClosing =
        (attributes previous quote depth 0 text).selfClosing := by
  induction text using lineFeeds_induction generalizing previous quote depth with
  | nil => exact ⟨.zero [], rfl⟩
  | lineFeed rest ih =>
      obtain ⟨front, same⟩ := ih (some Byte.lineFeed) quotes depth
      have passes (passed : Nat) (text : Text) (previous : Option UInt8) :=
        attributes_lineEnding quotes (b := Byte.lineFeed) (by decide) previous depth passed text
      have passes' := attributes_lineEnding quotes (b := Byte.carriageReturn) (by decide)
        previous depth 0 (Byte.lineFeed :: withReturns rest)
      rw [withReturns_lineFeed, passes', passes, passes, attributes_passed _ _ _ (0 + 1),
        attributes_passed _ _ _ (0 + 1 + 1)]
      simp only [Nat.zero_add, Nat.add_comm 1, Nat.add_comm (1 + 1)]
      exact ⟨front.lineFeed, same⟩
  | other b rest lineEnds ih =>
      rw [withReturns_cons rest lineEnds, attributes_cons, attributes_cons, tagEnd?_withReturns]
      cases tag : tagEnd? depth b rest.head? quote with
      | some ending =>
          refine ⟨?_, rfl⟩
          simp only [Nat.zero_add]
          obtain ⟨_, _, ⟨_, bracket, rfl⟩ | ⟨_, rfl⟩⟩ := tagEnd?_eq_some tag
          · obtain ⟨tail, rfl⟩ := List.head?_eq_some_iff.mp bracket
            exact ((InStep.zero tail).cons (by decide)).cons lineEnds
          · exact (InStep.zero rest).cons lineEnds
      | none =>
          obtain ⟨front, same⟩ :=
            ih (some b) (quoteAfter_quotes b quotes) (bracesAfter depth b quote)
          simp only
          rw [attributes_passed _ _ _ (0 + 1), attributes_passed _ _ _ (0 + 1) (withReturns rest)]
          simp only [Nat.zero_add, Nat.add_comm 1]
          exact ⟨front.cons lineEnds, same⟩

end TagCheck
