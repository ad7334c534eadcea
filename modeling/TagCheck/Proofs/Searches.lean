/-
# The searches of a step

A step finds the end of what it passes by a search: for a byte, for the end of a name,
of a stretch of type arguments or of an opening tag. Each search goes byte by byte and
stops for good where it finds what it seeks. So if it ends inside `taken`, the text
`taken ++ rest` may go on differently; these are the laws named `_append`.

A search that comes to the end of the text also stops, without having found anything.
The laws for type arguments and opening tags therefore ask for something to follow.
-/

import TagCheck.Markup.Lexer

namespace TagCheck

variable {taken rest other : Text}

/-! ## Bytes sought and names -/

/-- What is found inside `taken` is found there whatever follows. -/
theorem distance_append {sought : UInt8 → Bool}
    (inside : distance sought (taken ++ rest) < taken.length) :
    distance sought (taken ++ other) = distance sought (taken ++ rest) := by
  unfold distance at inside ⊢
  rw [List.findIdx_append] at inside ⊢
  rw [List.findIdx_append]
  split at inside
  · rename_i early
    rw [if_pos early, if_pos early]
  · omega

theorem bytes_cons (limit : Nat) (b : UInt8) (text : Text) :
    TagName.bytes (limit + 1) (b :: text) =
      if TagName.isPart b then b :: TagName.bytes limit text else [] := by
  unfold TagName.bytes
  rw [List.takeWhile_cons]
  split <;> rfl

/-- A name that ends inside `taken` ends there whatever follows. -/
theorem bytes_append {limit : Nat}
    (inside : (TagName.bytes limit (taken ++ rest)).length < taken.length) :
    TagName.bytes limit (taken ++ other) = TagName.bytes limit (taken ++ rest) := by
  induction taken generalizing limit with
  | nil => exact absurd inside (Nat.not_lt_zero _)
  | cons b taken ih =>
      cases limit with
      | zero => simp [TagName.bytes]
      | succ limit =>
          simp only [List.cons_append, bytes_cons] at inside ⊢
          split at inside
          · rename_i isPart
            rw [if_pos isPart, if_pos isPart, ih (Nat.lt_of_succ_lt_succ inside)]
          · rename_i notPart
            rw [if_neg notPart, if_neg notPart]

/-! ## Type arguments -/

/-- How many brackets of a stretch of type arguments are open after a byte. -/
def bracketsOpen (depth : Nat) (b : UInt8) : Nat :=
  if b = Byte.lessThan then depth + 1 else if b = Byte.greaterThan then depth - 1 else depth

theorem typeArgumentsLength_cons (depth passed : Nat) (b : UInt8) (text : Text) :
    typeArgumentsLength depth passed (b :: text) =
      if bracketsOpen depth b = 0 then passed + 1
      else typeArgumentsLength (bracketsOpen depth b) (passed + 1) text :=
  rfl

/-- What has been passed before is only added up. -/
theorem typeArgumentsLength_passed (depth passed : Nat) (text : Text) :
    typeArgumentsLength depth passed text = passed + typeArgumentsLength depth 0 text := by
  induction text generalizing depth passed with
  | nil => rfl
  | cons b text ih =>
      rw [typeArgumentsLength_cons, typeArgumentsLength_cons]
      split
      · rw [Nat.zero_add]
      · rw [ih, ih _ (0 + 1)]
        omega

theorem passed_le_typeArgumentsLength (depth passed : Nat) (text : Text) :
    passed ≤ typeArgumentsLength depth passed text := by
  induction text generalizing depth passed with
  | nil => exact Nat.le_refl _
  | cons b text ih =>
      rw [typeArgumentsLength_cons]
      split
      · exact Nat.le_succ _
      · exact Nat.le_of_succ_le (ih _ _)

theorem passed_lt_typeArgumentsLength (depth passed : Nat) (b : UInt8) (text : Text) :
    passed < typeArgumentsLength depth passed (b :: text) := by
  rw [typeArgumentsLength_cons]
  split
  · exact Nat.lt_succ_self _
  · exact passed_le_typeArgumentsLength _ _ _

/-- Type arguments that end inside `taken` end there whatever follows. -/
theorem typeArgumentsLength_append {depth passed : Nat} (more : rest ≠ [])
    (inside : typeArgumentsLength depth passed (taken ++ rest) ≤ passed + taken.length) :
    typeArgumentsLength depth passed (taken ++ other) =
      typeArgumentsLength depth passed (taken ++ rest) := by
  induction taken generalizing depth passed with
  | nil =>
      obtain ⟨b, rest, rfl⟩ := List.exists_cons_of_ne_nil more
      exact absurd inside (Nat.not_le_of_lt (passed_lt_typeArgumentsLength ..))
  | cons b taken ih =>
      rw [List.cons_append, typeArgumentsLength_cons, List.length_cons] at inside
      rw [List.cons_append, List.cons_append, typeArgumentsLength_cons, typeArgumentsLength_cons]
      split at inside
      · rename_i closed
        rw [if_pos closed, if_pos closed]
      · rename_i notClosed
        rw [if_neg notClosed, if_neg notClosed]
        exact ih (by omega)

/-! ## The rest of an opening tag, byte by byte -/

/-- The quote that is open in an opening tag after a byte, given the one before. -/
def quoteAfter (previous : Option UInt8) (b : UInt8) : Option UInt8 → Option UInt8
  | some q => if b = q && previous != some Byte.backslash then none else some q
  | none => if Byte.isQuote b then some b else none

/-- How many braces are open in an opening tag after a byte, given the quote that is open
before it. -/
def bracesAfter (depth : Nat) (b : UInt8) : Option UInt8 → Nat
  | some _ => depth
  | none =>
      if b = Byte.openBrace then depth + 1
      else if b = Byte.closeBrace then depth - 1 else depth

/-- The end of an opening tag, if a byte begins it. -/
def tagEnd? (depth : Nat) (b : UInt8) (ahead : Option UInt8) : Option UInt8 → Option Attributes
  | some _ => none
  | none =>
      if depth > 0 then none
      else if b = Byte.slash && ahead == some Byte.greaterThan then some ⟨2, true⟩
      else if b = Byte.greaterThan then some ⟨1, false⟩ else none

theorem Byte.ne_of_isQuote {b : UInt8} (quotes : isQuote b = true) :
    b ≠ openBrace ∧ b ≠ closeBrace ∧ b ≠ slash ∧ b ≠ greaterThan := by
  simp only [isQuote, Bool.or_eq_true, beq_iff_eq] at quotes
  rcases quotes with rfl | rfl <;> decide

theorem attributes_cons (previous quote : Option UInt8) (depth passed : Nat) (b : UInt8)
    (text : Text) :
    attributes previous quote depth passed (b :: text) =
      match tagEnd? depth b text.head? quote with
      | some ending => ⟨passed + ending.length, ending.selfClosing⟩
      | none => attributes (some b) (quoteAfter previous b quote) (bracesAfter depth b quote)
          (passed + 1) text := by
  cases quote with
  | some q =>
      simp only [attributes, tagEnd?, quoteAfter, bracesAfter]
      split <;> rfl
  | none =>
      simp only [attributes, tagEnd?, quoteAfter, bracesAfter]
      -- Quotes and braces are told apart from the bytes that end a tag.
      by_cases quotes : Byte.isQuote b = true
      · simp [quotes, Byte.ne_of_isQuote quotes]
      · by_cases opens : b = Byte.openBrace
        · have other : Byte.openBrace ≠ Byte.slash ∧ Byte.openBrace ≠ Byte.greaterThan := by
            decide
          subst opens
          simp [quotes, other]
        · by_cases closes : b = Byte.closeBrace
          · have other : Byte.closeBrace ≠ Byte.slash ∧ Byte.closeBrace ≠ Byte.greaterThan := by
              decide
            subst closes
            simp [quotes, opens, other]
          · simp only [if_neg quotes, if_neg opens, if_neg closes]
            split
            · rfl
            · split
              · rfl
              · split <;> rfl

section TagEnd

variable {depth : Nat} {b : UInt8} {ahead quote : Option UInt8} {ending : Attributes}

theorem tagEnd?_eq_some (ends : tagEnd? depth b ahead quote = some ending) :
    quote = none ∧ depth = 0 ∧
      (b = Byte.slash ∧ ahead = some Byte.greaterThan ∧ ending = ⟨2, true⟩ ∨
        b = Byte.greaterThan ∧ ending = ⟨1, false⟩) := by
  cases quote with
  | some q => cases ends
  | none =>
      rw [tagEnd?] at ends
      split at ends
      · cases ends
      · rename_i outside
        refine ⟨rfl, Nat.eq_zero_of_not_pos outside, ?_⟩
        split at ends
        · rename_i closes
          rw [Bool.and_eq_true, decide_eq_true_iff, beq_iff_eq] at closes
          exact .inl ⟨closes.1, closes.2, (Option.some.inj ends).symm⟩
        · split at ends
          · rename_i bracket
            exact .inr ⟨bracket, (Option.some.inj ends).symm⟩
          · cases ends

theorem tagEnd?_pos (ends : tagEnd? depth b ahead quote = some ending) : 0 < ending.length := by
  obtain ⟨_, _, ⟨_, _, rfl⟩ | ⟨_, rfl⟩⟩ := tagEnd?_eq_some ends
  · exact Nat.two_pos
  · exact Nat.one_pos

/-- Where a tag ends with the byte itself the next byte does not matter. -/
theorem tagEnd?_eq_of_short (ends : tagEnd? depth b ahead quote = some ending)
    (short : ending.length ≤ 1) (ahead' : Option UInt8) :
    tagEnd? depth b ahead' quote = some ending := by
  obtain ⟨rfl, rfl, ⟨_, _, rfl⟩ | ⟨rfl, rfl⟩⟩ := tagEnd?_eq_some ends
  · exact absurd short (by decide)
  · rfl

end TagEnd

theorem attributes_passed (previous quote : Option UInt8) (depth passed : Nat) (text : Text) :
    attributes previous quote depth passed text =
      ⟨passed + (attributes previous quote depth 0 text).length,
        (attributes previous quote depth 0 text).selfClosing⟩ := by
  induction text generalizing previous quote depth passed with
  | nil => rfl
  | cons b text ih =>
      rw [attributes_cons, attributes_cons]
      cases tagEnd? depth b text.head? quote with
      | some ending => simp only [Nat.zero_add]
      | none =>
          simp only
          rw [ih, ih _ _ _ (0 + 1)]
          simp only [Nat.zero_add, Nat.add_assoc]

theorem passed_le_attributes_length (previous quote : Option UInt8) (depth passed : Nat)
    (text : Text) : passed ≤ (attributes previous quote depth passed text).length := by
  induction text generalizing previous quote depth passed with
  | nil => exact Nat.le_refl _
  | cons b text ih =>
      rw [attributes_cons]
      split
      · exact Nat.le_add_right _ _
      · exact Nat.le_of_succ_le (ih _ _ _ _)

theorem passed_lt_attributes_length (previous quote : Option UInt8) (depth passed : Nat)
    (b : UInt8) (text : Text) :
    passed < (attributes previous quote depth passed (b :: text)).length := by
  rw [attributes_cons]
  split
  · rename_i ends
    exact Nat.lt_add_of_pos_right (tagEnd?_pos ends)
  · exact passed_le_attributes_length _ _ _ _ _

/-- A tag that ends inside `taken` ends there whatever follows. -/
theorem attributes_append {previous quote : Option UInt8} {depth passed : Nat} (more : rest ≠ [])
    (inside : (attributes previous quote depth passed (taken ++ rest)).length ≤
      passed + taken.length) :
    attributes previous quote depth passed (taken ++ other) =
      attributes previous quote depth passed (taken ++ rest) := by
  induction taken generalizing previous quote depth passed with
  | nil =>
      obtain ⟨b, rest, rfl⟩ := List.exists_cons_of_ne_nil more
      exact absurd inside (Nat.not_le_of_lt (passed_lt_attributes_length ..))
  | cons b taken ih =>
      rw [List.cons_append, attributes_cons, List.length_cons] at inside
      rw [List.cons_append, List.cons_append, attributes_cons, attributes_cons]
      have same : tagEnd? depth b (taken ++ other).head? quote =
          tagEnd? depth b (taken ++ rest).head? quote := by
        cases taken with
        | cons c taken => rfl
        | nil =>
            cases ends : tagEnd? depth b ([] ++ rest).head? quote with
            | some ending =>
                rw [ends] at inside
                exact tagEnd?_eq_of_short ends (Nat.le_of_add_le_add_left inside) _
            | none =>
                rw [ends] at inside
                obtain ⟨c, rest, rfl⟩ := List.exists_cons_of_ne_nil more
                exact absurd inside (Nat.not_le_of_lt (passed_lt_attributes_length ..))
      rw [same]
      split at inside
      · rename_i ends
        rw [ends]
      · rename_i ends
        rw [ends]
        exact ih (by omega)

end TagCheck
