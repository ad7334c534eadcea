/-
# What is JSON is read

A reader is told what values it takes by what it does with their texts (`Reads`): whichever
text a value has, and whatever delimits it, the reader takes it for what it should and leaves
what follows. Blanks are of no concern, as every reader passes over those in front of a value.

A string ends with its closing quote; a number ends where something else begins, which is a
blank, a comma, or the end of a list or an object.
-/

import TagCheck.Proofs.JsonWriting

namespace TagCheck.Json

/-- The reader takes any text of a value for this, and takes no more. -/
def Reads {α : Type} (reader : Reader α) (value : Value) (meant : α) : Prop :=
  ∀ ⦃written rest : List Char⦄, Denotes written value → Delimited rest →
    reader (written ++ rest) = .ok (meant, rest)

/-- What is read can be put to use. -/
theorem Reads.map {α β : Type} {reader : Reader α} {value : Value} {meant : α}
    (reads : Reads reader value meant) (use : α → β) :
    Reads (fun input => (reader input).map fun read => (use read.1, read.2)) value
      (use meant) := by
  intro written rest is delimited
  simp only [reads is delimited]
  rfl

/-- A reader that passes over blanks. -/
def PassesBlanks {α : Type} (reader : Reader α) : Prop :=
  ∀ ⦃blanks : List Char⦄, Blank blanks → ∀ rest, reader (blanks ++ rest) = reader rest

@[simp] theorem skipBlanks_comma (rest : List Char) : skipBlanks (',' :: rest) = ',' :: rest :=
  skipBlanks_cons rfl rest

@[simp] theorem skipBlanks_colon (rest : List Char) : skipBlanks (':' :: rest) = ':' :: rest :=
  skipBlanks_cons rfl rest

@[simp] theorem skipBlanks_bracket (rest : List Char) : skipBlanks (']' :: rest) = ']' :: rest :=
  skipBlanks_cons rfl rest

@[simp] theorem skipBlanks_brace (rest : List Char) :
    skipBlanks ('\x7d' :: rest) = '\x7d' :: rest :=
  skipBlanks_cons rfl rest

theorem Denotes.skipBlanks_append {written : List Char} {value : Value}
    (is : Denotes written value) (rest : List Char) :
    skipBlanks (written ++ rest) = written ++ rest :=
  is.fronted.skipBlanks_append rest

/-- A string is read from behind its opening quote. -/
theorem string_spelled {written text : List Char} (spelled : Spells written text)
    (rest : List Char) : string (written ++ '"' :: rest) = .ok (text, rest) :=
  stringFrom_spelled spelled [] rest

/-! ## Numbers -/

/-- Digits are taken as long as the number they make is within the limit. -/
theorem digitsWithin_toDigits {limit n : Nat} (within : n ≤ limit) (rest : List Char) :
    Number.digitsWithin limit 0 0 (Nat.toDigits 10 n ++ rest) =
      Number.digitsWithin limit n (Nat.toDigits 10 n).length rest := by
  induction n using Nat.strongRecOn generalizing rest with
  | ind n ih =>
      rw [Nat.toDigits_eq_if (by decide)]
      split
      · rename_i small
        rw [List.singleton_append, Number.digitsWithin, digit?_digitChar small]
        simp only [Nat.zero_mul, Nat.zero_add, if_neg (Nat.not_lt_of_le within),
          List.length_singleton]
      · rename_i large
        have shorter : n / 10 < n := by omega
        have whole : n / 10 * 10 + n % 10 = n := by omega
        rw [List.append_assoc, ih (n / 10) shorter (by omega), List.singleton_append,
          Number.digitsWithin, digit?_digitChar (Nat.mod_lt n (by decide))]
        simp only [whole, if_neg (Nat.not_lt_of_le within), List.length_append,
          List.length_singleton]

/-- What delimits a value goes on with no digit, point or exponent. -/
theorem Delimited.not_in_number {c : Char} {rest : List Char} (delimited : Delimited (c :: rest)) :
    Number.isDigit c = false ∧ c ≠ '.' ∧ c ≠ 'e' ∧ c ≠ 'E' := by
  rcases delimited c rfl with blank | rfl | rfl | rfl
  · simp only [isBlank, Bool.or_eq_true, decide_eq_true_eq] at blank
    rcases blank with ((rfl | rfl) | rfl) | rfl <;> decide
  · decide
  · decide
  · decide

theorem digit?_of_not_isDigit {c : Char} (notDigit : Number.isDigit c = false) :
    Number.digit? c = none := by
  rwa [Number.isDigit, Option.isSome_eq_false_iff, Option.isNone_iff_eq_none] at notDigit

/-- Where no digit, point or exponent follows, a number ends. -/
theorem digitsWithin_delimited {rest : List Char} (delimited : Delimited rest)
    (limit n count : Nat) : Number.digitsWithin limit n count rest = (n, count, rest) := by
  cases rest with
  | nil => rfl
  | cons c more =>
      rw [Number.digitsWithin, digit?_of_not_isDigit delimited.not_in_number.1]

theorem afterInteger_delimited {rest : List Char} (delimited : Delimited rest) (n : Nat) :
    Number.afterInteger false n rest = .ok (.natural n, rest) := by
  cases rest with
  | nil => rfl
  | cons c more =>
      obtain ⟨_, notPoint, notSmall, notLarge⟩ := delimited.not_in_number
      rw [Number.afterInteger]
      · rfl
      · exact fun _ same => notPoint (List.cons.inj same).1
      · exact fun _ same => notSmall (List.cons.inj same).1
      · exact fun _ same => notLarge (List.cons.inj same).1

/-- A natural number of at most 64 bits is read from its digits. -/
theorem read_natural {n : Nat} (fits : n ≤ Number.maxNatural) {rest : List Char}
    (delimited : Delimited rest) :
    Number.read false (Nat.toDigits 10 n ++ rest) = .ok (.natural n, rest) := by
  have ends := afterInteger_delimited delimited n
  cases n with
  | zero =>
      cases rest with
      | nil => rfl
      | cons c more =>
          change (if Number.isDigit c then _ else Number.afterInteger false 0 (c :: more)) = _
          rw [delimited.not_in_number.1]
          exact ends
  | succ n =>
      have taken := digitsWithin_toDigits fits rest
      rw [digitsWithin_delimited delimited] at taken
      obtain ⟨digit, tail, digits, positive, small⟩ := toDigits_eq_cons (Nat.succ_pos n)
      rw [digits, List.cons_append] at taken ⊢
      rw [Number.read]
      · simp only [isDigit_digitChar small, taken, Bool.not_true, Bool.false_eq_true, if_false]
        cases rest with
        | nil => exact ends
        | cons c more =>
            simp only [delimited.not_in_number.1, Bool.false_eq_true, if_false]
            exact ends
      · exact digitChar_ne_zero small positive

/-! ## Parts between brackets -/

/-- What stands before a part: nothing if it is the first, else a comma, perhaps behind
blanks. -/
inductive Lead : Bool → List Char → List Char → Prop
  | first (body : List Char) : Lead true body body
  | later {blanks : List Char} (blank : Blank blanks) (body : List Char) :
      Lead false (blanks ++ ',' :: body) body

/-- Every part takes up a character at least. -/
theorem Separated.length_le {α : Type} {part : List Char → α → Prop} {written : List Char}
    {as : List α} (fronted : ∀ {w a}, part w a → Fronted w)
    (separated : Separated part written as) : as.length ≤ written.length := by
  have filled {w : List Char} {a : α} (is : part w a) : 0 < w.length := by
    obtain ⟨c, tail, rfl, _⟩ := fronted is
    exact Nat.succ_pos _
  induction separated with
  | last _ _ is =>
      have one := filled is
      simp only [List.length_singleton, List.length_append]
      omega
  | next _ _ is _ ih =>
      simp only [List.length_append, List.length_cons]
      omega

end TagCheck.Json
