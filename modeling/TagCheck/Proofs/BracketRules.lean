/-
# What the rules for brackets look for, by index

The classifier cuts up what stands before a bracket into lists, nearest byte first, and its
rules look at the fronts of these. Here the same rules are said of the text as it lies: with
the index of the last byte that is no whitespace, the index at which the word that ends there
begins, and the index of the last byte before the word that is no blank (`Rule.Holds`).

A search from the end of a text stops at the last byte of the kind sought (`LastBelow`), and
what it leaves is the text up to there (`dropWhile_of_last`). With that every piece of a
lookbehind is a stretch of the text (`WordRun.word_eq`, `WordRun.beyond_eq`,
`anchor_of_last`), and `applies_iff_holds` goes through the rules one by one.
-/

import TagCheck.Proofs.CheckedLookback
import TagCheck.Proofs.TagText

namespace TagCheck

/-- A byte of the kind stands at index `i`. -/
def Text.HasAt (text : Text) (kind : UInt8 → Bool) (i : Nat) : Prop :=
  text[i]?.any kind = true

instance (text : Text) (kind : UInt8 → Bool) (i : Nat) : Decidable (text.HasAt kind i) :=
  inferInstanceAs (Decidable (_ = _))

/-- The greatest index below `stop` at which `P` holds. -/
def LastBelow (stop : Nat) (P : Nat → Prop) (i : Nat) : Prop :=
  i < stop ∧ P i ∧ ∀ k < stop, i < k → ¬ P k

instance (stop i : Nat) (P : Nat → Prop) [DecidablePred P] : Decidable (LastBelow stop P i) :=
  inferInstanceAs (Decidable (_ ∧ _ ∧ _))

theorem LastBelow.unique {stop i j : Nat} {P : Nat → Prop} (last : LastBelow stop P i)
    (other : LastBelow stop P j) : i = j := by
  refine Nat.le_antisymm (Nat.le_of_not_lt ?_) (Nat.le_of_not_lt ?_)
  · exact fun later => other.2.2 i last.1 later last.2.1
  · exact fun later => last.2.2 j other.1 later other.2.1

/-- The bytes from `start` up to index `last` belong to a word, and no byte before them
continues it. If no word ends at `last`, it is empty and begins behind that index. -/
def WordRun (text : Text) (last start : Nat) : Prop :=
  start ≤ last + 1 ∧ (∀ i < last + 1, start ≤ i → text.HasAt Byte.isWord i) ∧
    (start = 0 ∨ ¬ text.HasAt Byte.isWord (start - 1))

instance (text : Text) (last start : Nat) : Decidable (WordRun text last start) :=
  inferInstanceAs (Decidable (_ ∧ _ ∧ _))

namespace Rule

variable (text : Text) (site last start : Nat)

/-- Whether a rule holds of the bracket at `site`, where `last` is the index of the last byte
before it that is no whitespace, and the word that ends there begins at `start`. -/
def Holds : Rule → Prop
  | annotated => text[last]? = some Byte.colon ∨ text[last]? = some Byte.closeBracket
  | typeKeyword =>
      ∃ keyword ∈ ["satisfies", "extends", "implements", "as", "type", "new", "typeof", "keyof",
          "infer"],
        (text.take (last + 1)).drop start = Byte.letters keyword
  | abuttingGeneric =>
      start ≤ last ∧ last + 1 = site ∧
        (text.HasAt Byte.isUpper start ∨
          (∃ callee ∈ ["string", "number", "forwardRef", "memo", "lazy", "createContext",
              "useState", "useRef", "useReducer", "useContext", "useCallback", "useMemo"],
            (text.take (last + 1)).drop start = Byte.letters callee) ∨
          0 < start ∧ text[start - 1]? = some Byte.dot)
  | typePunctuation =>
      ∃ i < start, LastBelow start (text.HasAt (!Byte.isBlank ·)) i ∧
        text.HasAt [Byte.colon, Byte.semicolon, Byte.comma, Byte.equals, Byte.bar,
          Byte.question].contains i
  | intersection =>
      ∃ i < start, LastBelow start (text.HasAt (!Byte.isBlank ·)) i ∧
        text[i]? = some Byte.ampersand ∧ (i = 0 ∨ text[i - 1]? ≠ some Byte.ampersand)

instance : (rule : Rule) → Decidable (rule.Holds text site last start)
  | annotated => inferInstanceAs (Decidable (_ ∨ _))
  | typeKeyword => inferInstanceAs (Decidable (∃ keyword ∈ _, _))
  | abuttingGeneric => inferInstanceAs (Decidable (_ ∧ _ ∧ (_ ∨ (∃ callee ∈ _, _) ∨ _)))
  | typePunctuation => inferInstanceAs (Decidable (∃ i < start, _))
  | intersection => inferInstanceAs (Decidable (∃ i < start, _))

end Rule

/-! ## Searches from the end -/

section Searches

variable {text : Text} {kind : UInt8 → Bool} {stop start i : Nat}

theorem Text.hasAt_iff : text.HasAt kind i ↔ ∃ b, text[i]? = some b ∧ kind b = true := by
  rw [HasAt, Option.any_eq_true]

theorem Text.hasAt_not_iff (inside : i < text.length) :
    text.HasAt (!kind ·) i ↔ ¬ text.HasAt kind i := by
  rw [HasAt, HasAt, List.getElem?_eq_getElem inside, Option.any_some, Option.any_some,
    Bool.not_eq_true', Bool.not_eq_true]

theorem reverse_take_succ {b : UInt8} (found : text[i]? = some b) :
    (text.take (i + 1)).reverse = b :: (text.take i).reverse := by
  rw [List.take_add_one, found, List.reverse_append]
  rfl

/-- The nearest byte of what lies behind an index. -/
theorem head?_reverse_take (inside : i < text.length) :
    (text.take (i + 1)).reverse.head? = text[i]? := by
  have found := List.getElem?_eq_getElem inside
  rw [reverse_take_succ found, found, List.head?_cons]

theorem ofKind_of_mem {b : UInt8} (run : ∀ i < stop, start ≤ i → text.HasAt kind i)
    (among : b ∈ (text.take stop).drop start) : kind b = true := by
  obtain ⟨k, found⟩ := List.mem_iff_getElem?.mp among
  rw [List.getElem?_drop, List.getElem?_take] at found
  split at found
  · rename_i early
    obtain ⟨c, here, ofKind⟩ := Text.hasAt_iff.mp (run (start + k) early (Nat.le_add_right _ _))
    cases here.symm.trans found
    exact ofKind
  · cases found

/-- A search backwards stops where the byte before is not of the kind. -/
theorem search_stops (inside : start ≤ text.length)
    (ends : start = 0 ∨ ¬ text.HasAt kind (start - 1)) :
    (text.take start).reverse.takeWhile kind = [] ∧
      (text.take start).reverse.dropWhile kind = (text.take start).reverse := by
  cases start with
  | zero => exact ⟨rfl, rfl⟩
  | succ i =>
      have found := List.getElem?_eq_getElem (Nat.lt_of_succ_le inside)
      have other : ¬ kind (text[i]) = true := by
        have stops := ends.resolve_left (Nat.succ_ne_zero i)
        rwa [Nat.add_sub_cancel, Text.HasAt, found] at stops
      rw [reverse_take_succ found, List.takeWhile_cons_of_neg other,
        List.dropWhile_cons_of_neg other]
      exact ⟨rfl, rfl⟩

/-- A search backwards passes a run of bytes of the kind, and no more. -/
theorem search_back (onward : start ≤ stop) (inside : stop ≤ text.length)
    (run : ∀ i < stop, start ≤ i → text.HasAt kind i)
    (ends : start = 0 ∨ ¬ text.HasAt kind (start - 1)) :
    (text.take stop).reverse.takeWhile kind = ((text.take stop).drop start).reverse ∧
      (text.take stop).reverse.dropWhile kind = (text.take start).reverse := by
  have cut : (text.take stop).reverse =
      ((text.take stop).drop start).reverse ++ (text.take start).reverse := by
    have front : (text.take stop).take start = text.take start := by
      rw [List.take_take, Nat.min_eq_left onward]
    rw [← List.reverse_append, ← front, List.take_append_drop]
  have passed : ∀ b ∈ ((text.take stop).drop start).reverse, kind b = true :=
    fun b among => ofKind_of_mem run (List.mem_reverse.mp among)
  obtain ⟨noMore, left⟩ := search_stops (Nat.le_trans onward inside) ends
  rw [cut, List.takeWhile_append_of_pos passed, List.dropWhile_append_of_pos passed, noMore, left,
    List.append_nil]
  exact ⟨rfl, rfl⟩

/-- A search backwards stops at the last byte of the other kind. -/
theorem search_back_of_last (inside : stop ≤ text.length)
    (last : LastBelow stop (text.HasAt (!kind ·)) i) :
    (text.take stop).reverse.takeWhile kind = ((text.take stop).drop (i + 1)).reverse ∧
      (text.take stop).reverse.dropWhile kind = (text.take (i + 1)).reverse := by
  obtain ⟨before, other, later⟩ := last
  have within : i < text.length := Nat.lt_of_lt_of_le before inside
  refine search_back before inside ?_ (.inr ((Text.hasAt_not_iff within).mp other))
  intro k early onward
  have ofKind := later k early onward
  rwa [Text.hasAt_not_iff (Nat.lt_of_lt_of_le early inside), Classical.not_not] at ofKind

theorem dropWhile_of_never (inside : stop ≤ text.length)
    (never : ∀ i < stop, ¬ text.HasAt (!kind ·) i) :
    (text.take stop).reverse.dropWhile kind = [] := by
  refine (search_back (Nat.zero_le stop) inside ?_ (.inl rfl)).2
  intro k early _
  have ofKind := never k early
  rwa [Text.hasAt_not_iff (Nat.lt_of_lt_of_le early inside), Classical.not_not] at ofKind

theorem exists_last_or_never (stop : Nat) (P : Nat → Prop) :
    (∃ i, LastBelow stop P i) ∨ ∀ i < stop, ¬ P i := by
  induction stop with
  | zero => exact .inr fun i early => absurd early (Nat.not_lt_zero i)
  | succ stop ih =>
      by_cases here : P stop
      · refine .inl ⟨stop, Nat.lt_succ_self stop, here, ?_⟩
        intro k early later
        exact absurd early (Nat.not_lt_of_le later)
      · rcases ih with ⟨i, before, holds, later⟩ | never
        · refine .inl ⟨i, Nat.lt_succ_of_lt before, holds, ?_⟩
          intro k early onward
          rcases Nat.lt_succ_iff_lt_or_eq.mp early with earlier | rfl
          · exact later k earlier onward
          · exact here
        · refine .inr fun i early => ?_
          rcases Nat.lt_succ_iff_lt_or_eq.mp early with earlier | rfl
          · exact never i earlier
          · exact here

end Searches

/-- Of two runs up to the same index neither begins later. -/
theorem WordRun.start_le {text : Text} {last start other : Nat} (run : WordRun text last start)
    (otherRun : WordRun text last other) : other ≤ start := by
  by_contra later
  obtain ⟨_, word, _⟩ := run
  obtain ⟨within, _, ends⟩ := otherRun
  have notFirst : other ≠ 0 := by omega
  exact ends.resolve_left notFirst (word (other - 1) (by omega) (by omega))

theorem existsUnique_wordRun (text : Text) (last : Nat) : ∃! start, WordRun text last start := by
  have run : ∃ start, WordRun text last start := by
    rcases exists_last_or_never (last + 1) (¬ text.HasAt Byte.isWord ·) with
      ⟨i, before, other, later⟩ | never
    · exact ⟨i + 1, before, fun k early onward => Classical.not_not.mp (later k early onward),
        .inr other⟩
    · exact ⟨0, Nat.zero_le _, fun k early _ => Classical.not_not.mp (never k early), .inl rfl⟩
  obtain ⟨start, run⟩ := run
  exact ⟨start, run, fun other otherRun =>
    Nat.le_antisymm (run.start_le otherRun) (otherRun.start_le run)⟩

/-! ## Words as names -/

theorem isAscii_of_isWord {b : UInt8} (word : Byte.isWord b = true) : b < 0x80 := by
  simp only [Byte.isWord, Byte.isLetter, Byte.isUpper, Byte.isLower, Byte.isDigit,
    Byte.underscore] at word
  grind

/-- ASCII bytes spell a name of a list if and only if they are the letters of one. -/
theorem contains_spell_iff {names : List String} {word : Text}
    (plain : ∀ name ∈ names, Byte.spell (Byte.letters name) = name)
    (ascii : ∀ b ∈ word, b < 0x80) :
    names.contains (Byte.spell word) = true ↔ ∃ name ∈ names, word = Byte.letters name := by
  rw [List.contains_iff_mem]
  constructor
  · intro among
    exact ⟨Byte.spell word, among, (Byte.letters_spell ascii).symm⟩
  · rintro ⟨name, among, rfl⟩
    rwa [plain name among]

/-! ## The rules one by one -/

namespace Rule

variable {text : Text} {site last start : Nat} (inside : site ≤ text.length)
  (solid : LastBelow site (text.HasAt (!Byte.isWhitespace ·)) last)
  (run : WordRun text last start)

include inside solid

theorem trimmed_eq : (text.take site).reverse.dropWhile Byte.isWhitespace =
    (text.take (last + 1)).reverse :=
  (search_back_of_last inside solid).2

theorem last_lt_length : last < text.length := Nat.lt_of_lt_of_le solid.1 inside

theorem annotated_iff : annotated.applies (Lookbehind.ofBefore (text.take site).reverse) = true ↔
    annotated.Holds text site last start := by
  rw [applies, Checked.previous_eq, trimmed_eq inside solid,
    head?_reverse_take (last_lt_length inside solid), Bool.or_eq_true, beq_iff_eq, beq_iff_eq]
  rfl

include run

/-- The pieces of a lookbehind are stretches of the text. -/
theorem ofBefore_eq : Lookbehind.ofBefore (text.take site).reverse =
    ⟨((text.take site).drop (last + 1)).reverse, (text.take (last + 1)).drop start,
      (text.take start).reverse⟩ := by
  have within : last + 1 ≤ text.length := last_lt_length inside solid
  obtain ⟨word, beyond⟩ := search_back run.1 within run.2.1 run.2.2
  rw [Lookbehind.ofBefore, (search_back_of_last inside solid).1, trimmed_eq inside solid, word,
    beyond, List.reverse_reverse]

theorem typeKeyword_iff :
    typeKeyword.applies (Lookbehind.ofBefore (text.take site).reverse) = true ↔
      typeKeyword.Holds text site last start := by
  have plain : ∀ name ∈ typeKeywords, Byte.spell (Byte.letters name) = name := by
    decide +kernel
  rw [applies, Lookbehind.wordText, ofBefore_eq inside solid run]
  exact contains_spell_iff plain fun b among => isAscii_of_isWord (ofKind_of_mem run.2.1 among)

theorem wordAbuts_iff : (Lookbehind.ofBefore (text.take site).reverse).wordAbuts = true ↔
    start ≤ last ∧ last + 1 = site := by
  have before := solid.1
  have within := last_lt_length inside solid
  rw [Lookbehind.wordAbuts, ofBefore_eq inside solid run, Bool.and_eq_true, Bool.not_eq_true',
    List.isEmpty_eq_false_iff, List.isEmpty_iff, ← List.length_pos_iff, ← List.length_eq_zero_iff,
    List.length_reverse, List.length_drop, List.length_drop, List.length_take, List.length_take]
  omega

theorem wordFollowsDot_iff :
    (Lookbehind.ofBefore (text.take site).reverse).wordFollowsDot = true ↔
      0 < start ∧ text[start - 1]? = some Byte.dot := by
  have within := last_lt_length inside solid
  have onward := run.1
  rw [Lookbehind.wordFollowsDot, ofBefore_eq inside solid run, beq_iff_eq]
  cases start with
  | zero => exact iff_of_false (fun dot => by cases dot) fun dot => Nat.lt_irrefl 0 dot.1
  | succ i =>
      simp only [head?_reverse_take (Nat.lt_of_le_of_lt (Nat.le_of_succ_le_succ onward) within)]
      exact (and_iff_right (Nat.succ_pos i)).symm

theorem abuttingGeneric_iff :
    abuttingGeneric.applies (Lookbehind.ofBefore (text.take site).reverse) = true ↔
      abuttingGeneric.Holds text site last start := by
  have plain : ∀ name ∈ genericCallees, Byte.spell (Byte.letters name) = name := by
    decide +kernel
  have callee := contains_spell_iff plain fun b among =>
    isAscii_of_isWord (ofKind_of_mem run.2.1 among)
  rw [applies, Bool.and_eq_true, Bool.or_eq_true, Bool.or_eq_true,
    wordAbuts_iff inside solid run, wordFollowsDot_iff inside solid run, Lookbehind.wordText,
    ofBefore_eq inside solid run, callee, Holds, and_assoc, or_assoc]
  refine and_congr_right fun filled => ?_
  rw [List.head?_drop, List.getElem?_take_of_lt (Nat.lt_succ_of_le filled)]
  rfl

/-! The last two rules look for the byte before the word. -/

theorem anchor_of_last {i : Nat} (nearest : LastBelow start (text.HasAt (!Byte.isBlank ·)) i) :
    (Lookbehind.ofBefore (text.take site).reverse).anchor = (text.take (i + 1)).reverse := by
  have within : start ≤ text.length := Nat.le_trans run.1 (last_lt_length inside solid)
  rw [Lookbehind.anchor, ofBefore_eq inside solid run]
  exact (search_back_of_last within nearest).2

theorem anchor_of_never (never : ∀ i < start, ¬ text.HasAt (!Byte.isBlank ·) i) :
    (Lookbehind.ofBefore (text.take site).reverse).anchor = [] := by
  have within : start ≤ text.length := Nat.le_trans run.1 (last_lt_length inside solid)
  rw [Lookbehind.anchor, ofBefore_eq inside solid run]
  exact dropWhile_of_never within never

theorem beforeWord_of_last {i : Nat}
    (nearest : LastBelow start (text.HasAt (!Byte.isBlank ·)) i) :
    (Lookbehind.ofBefore (text.take site).reverse).beforeWord = text[i]? := by
  obtain ⟨b, here, _⟩ := Text.hasAt_iff.mp nearest.2.1
  rw [Lookbehind.beforeWord, anchor_of_last inside solid run nearest, reverse_take_succ here, here,
    List.head?_cons]

theorem anchorFollowsAmpersand_iff {i : Nat}
    (nearest : LastBelow start (text.HasAt (!Byte.isBlank ·)) i) :
    (Lookbehind.ofBefore (text.take site).reverse).anchorFollowsAmpersand = true ↔
      i ≠ 0 ∧ text[i - 1]? = some Byte.ampersand := by
  obtain ⟨b, here, _⟩ := Text.hasAt_iff.mp nearest.2.1
  rw [Lookbehind.anchorFollowsAmpersand, anchor_of_last inside solid run nearest,
    reverse_take_succ here, List.tail_cons, beq_iff_eq]
  cases i with
  | zero => exact iff_of_false (fun doubled => by cases doubled) fun doubled => doubled.1 rfl
  | succ k =>
      have within : k < text.length :=
        Nat.lt_of_succ_lt (List.getElem?_eq_some_iff.mp here).1
      rw [head?_reverse_take within]
      exact (and_iff_right (Nat.succ_ne_zero k)).symm

theorem typePunctuation_iff :
    typePunctuation.applies (Lookbehind.ofBefore (text.take site).reverse) = true ↔
      typePunctuation.Holds text site last start := by
  rw [applies]
  rcases exists_last_or_never start (text.HasAt (!Byte.isBlank ·)) with ⟨i, nearest⟩ | never
  · rw [beforeWord_of_last inside solid run nearest]
    constructor
    · intro punctuation
      exact ⟨i, nearest.1, nearest, punctuation⟩
    · rintro ⟨j, _, other, punctuation⟩
      rw [nearest.unique other]
      exact punctuation
  · rw [Lookbehind.beforeWord, anchor_of_never inside solid run never]
    refine iff_of_false Bool.false_ne_true ?_
    rintro ⟨i, early, nearest, _⟩
    exact never i early nearest.2.1

theorem intersection_iff :
    intersection.applies (Lookbehind.ofBefore (text.take site).reverse) = true ↔
      intersection.Holds text site last start := by
  rw [applies, Bool.and_eq_true, beq_iff_eq, Bool.not_eq_true']
  rcases exists_last_or_never start (text.HasAt (!Byte.isBlank ·)) with ⟨i, nearest⟩ | never
  · have single := not_congr (anchorFollowsAmpersand_iff inside solid run nearest)
    rw [beforeWord_of_last inside solid run nearest, ← Bool.not_eq_true, single, not_and_or,
      Classical.not_not]
    constructor
    · rintro ⟨ampersand, alone⟩
      exact ⟨i, nearest.1, nearest, ampersand, alone⟩
    · rintro ⟨j, _, other, ampersand, alone⟩
      rw [nearest.unique other]
      exact ⟨ampersand, alone⟩
  · rw [Lookbehind.beforeWord, anchor_of_never inside solid run never]
    refine iff_of_false (fun ampersand => by cases ampersand.1) ?_
    rintro ⟨i, early, nearest, _⟩
    exact never i early nearest.2.1

theorem applies_iff_holds (rule : Rule) :
    rule.applies (Lookbehind.ofBefore (text.take site).reverse) = true ↔
      rule.Holds text site last start := by
  cases rule with
  | annotated => exact annotated_iff inside solid
  | typeKeyword => exact typeKeyword_iff inside solid run
  | abuttingGeneric => exact abuttingGeneric_iff inside solid run
  | typePunctuation => exact typePunctuation_iff inside solid run
  | intersection => exact intersection_iff inside solid run

end Rule

/-- A bracket is of the type level by the first rule that holds of it, in the order of the
table, and otherwise opens an element. It does so too if only whitespace stands before it. -/
theorem classify_eq_first_rule {text : Text} {site : Nat} (inside : site ≤ text.length) :
    (∀ last, LastBelow site (text.HasAt (!Byte.isWhitespace ·)) last →
      (∃! start, WordRun text last start) ∧
      ∀ start, WordRun text last start →
        classify (text.take site).reverse =
          [Rule.annotated, .typeKeyword, .abuttingGeneric, .typePunctuation, .intersection].find?
            fun rule => rule.Holds text site last start) ∧
    ((∀ i < site, ¬ text.HasAt (!Byte.isWhitespace ·) i) →
      classify (text.take site).reverse = none) := by
  refine ⟨?_, ?_⟩
  · intro last solid
    refine ⟨existsUnique_wordRun text last, ?_⟩
    intro start run
    rw [classify]
    congr 1
    funext rule
    rw [Bool.eq_iff_iff, Rule.applies_iff_holds inside solid run, decide_eq_true_iff]
  · intro never
    have nothing := dropWhile_of_never inside never
    have cut : Lookbehind.ofBefore (text.take site).reverse =
        ⟨(text.take site).reverse.takeWhile Byte.isWhitespace, [], []⟩ := by
      rw [Lookbehind.ofBefore, nothing]
      rfl
    rw [classify, cut]
    rfl

theorem classify_eq_first_rule_keyword :
    let text : Text := ", as<T>".toUTF8.toList
    4 ≤ text.length ∧ LastBelow 4 (text.HasAt (!Byte.isWhitespace ·)) 3 ∧ WordRun text 3 2 ∧
      Rule.typeKeyword.Holds text 4 3 2 ∧ Rule.typePunctuation.Holds text 4 3 2 ∧
      classify (text.take 4).reverse = some .typeKeyword := by
  intro text
  have inside : 4 ≤ text.length := by decide +kernel
  have solid : LastBelow 4 (text.HasAt (!Byte.isWhitespace ·)) 3 := by decide +kernel
  have run : WordRun text 3 2 := by decide +kernel
  have keyword : Rule.typeKeyword.Holds text 4 3 2 := by decide +kernel
  have punctuation : Rule.typePunctuation.Holds text 4 3 2 := by decide +kernel
  obtain ⟨ruled, _⟩ := classify_eq_first_rule inside
  refine ⟨inside, solid, run, keyword, punctuation, ?_⟩
  rw [(ruled 3 solid).2 2 run]
  decide +kernel

end TagCheck
