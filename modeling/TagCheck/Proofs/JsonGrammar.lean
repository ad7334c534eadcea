/-
# What a text of JSON stands for

The grammar of JSON as a relation between texts and values (`Denotes`, `IsText`). A value has
many texts: blanks may stand around every part, and a character of a string may be written as
an escape. But a text has one value at most (`IsText.unique`), so that to have a text of a
value is to have the value.

A value is told by its first character, a string ends with the first quote that is not
escaped, and a number goes on as long as there are characters of numbers. Between brackets,
parts are compared one by one.
-/

import TagCheck.Json.Number
import TagCheck.Json.Value

namespace TagCheck.Json

/-- Nothing but blanks. -/
def Blank (chars : List Char) : Prop := ∀ c ∈ chars, isBlank c = true

/-- The characters between two quotes spell a text. -/
inductive Spells : List Char → List Char → Prop
  | nothing : Spells [] []
  /-- Most characters stand for themselves. -/
  | plain {c : Char} {written text : List Char} (notQuote : c ≠ '"') (notBackslash : c ≠ '\\')
      (shown : isControl c = false) (more : Spells written text) : Spells (c :: written) (c :: text)
  /-- A backslash and a letter. -/
  | short {letter meant : Char} {written text : List Char}
      (stands : shortEscape? letter = some meant) (more : Spells written text) :
      Spells ('\\' :: letter :: written) (meant :: text)
  /-- The four digits of a code unit. -/
  | code {a b c d : Char} {unit : Nat} {written text : List Char}
      (stands : fourDigits? [a, b, c, d] = some unit) (notHigh : isHighSurrogate unit = false)
      (notLow : isLowSurrogate unit = false) (more : Spells written text) :
      Spells ('\\' :: 'u' :: a :: b :: c :: d :: written) (Char.ofNat unit :: text)
  /-- The code units of a pair of surrogates. -/
  | pair {a b c d a' b' c' d' : Char} {high low : Nat} {written text : List Char}
      (stands : fourDigits? [a, b, c, d] = some high)
      (stands' : fourDigits? [a', b', c', d'] = some low) (isHigh : isHighSurrogate high = true)
      (isLow : isLowSurrogate low = true) (more : Spells written text) :
      Spells ('\\' :: 'u' :: a :: b :: c :: d :: '\\' :: 'u' :: a' :: b' :: c' :: d' :: written)
        (ofSurrogates high low :: text)

/-- One digit or more. -/
def IsDigits (chars : List Char) : Prop := chars ≠ [] ∧ ∀ c ∈ chars, Number.isDigit c = true

/-- The digits before the point: none is zero in front of others. -/
inductive IsWhole : List Char → Prop
  | zero : IsWhole ['0']
  | digits {chars : List Char} (digits : IsDigits chars) (front : chars.head? ≠ some '0') :
      IsWhole chars

/-- The point and the digits behind it, if there are any. -/
inductive IsFraction : List Char → Prop
  | none : IsFraction []
  | digits {chars : List Char} (digits : IsDigits chars) : IsFraction ('.' :: chars)

/-- The power of ten, if there is one. -/
inductive IsExponent : List Char → Prop
  | none : IsExponent []
  | power {mark : Char} {sign chars : List Char} (marked : mark = 'e' ∨ mark = 'E')
      (signed : sign = [] ∨ sign = ['+'] ∨ sign = ['-']) (digits : IsDigits chars) :
      IsExponent (mark :: (sign ++ chars))

/-- A number. -/
inductive IsNumber : List Char → Prop
  | mk {sign whole fraction exponent : List Char} (signed : sign = [] ∨ sign = ['-'])
      (isWhole : IsWhole whole) (isFraction : IsFraction fraction)
      (isExponent : IsExponent exponent) :
      IsNumber (sign ++ whole ++ fraction ++ exponent)

/-- Parts with commas between them and blanks around them. -/
inductive Separated {α : Type} (part : List Char → α → Prop) : List Char → List α → Prop
  | last {before written after : List Char} {a : α} (blank : Blank before) (blank' : Blank after)
      (is : part written a) : Separated part (before ++ (written ++ after)) [a]
  | next {before written after others : List Char} {a : α} {as : List α} (blank : Blank before)
      (blank' : Blank after) (is : part written a) (more : Separated part others as) :
      Separated part (before ++ (written ++ (after ++ ',' :: others))) (a :: as)

/-- Parts between brackets, if there are any. -/
inductive Bracketed {α : Type} (opening closing : Char) (part : List Char → α → Prop) :
    List Char → List α → Prop
  | nothing {blanks : List Char} (blank : Blank blanks) :
      Bracketed opening closing part (opening :: (blanks ++ [closing])) []
  | parts {written : List Char} {as : List α} (separated : Separated part written as) :
      Bracketed opening closing part (opening :: (written ++ [closing])) as

/-- A value under a name. -/
inductive Named (denotes : List Char → Value → Prop) : List Char → String × Value → Prop
  | mk {key before after written : List Char} {name : String} {value : Value}
      (spelled : Spells key name.toList) (blank : Blank before) (blank' : Blank after)
      (is : denotes written value) :
      Named denotes ('"' :: (key ++ '"' :: (before ++ ':' :: (after ++ written)))) (name, value)

/-- The characters of a value, from its first to its last. -/
inductive Denotes : List Char → Value → Prop
  | null : Denotes ['n', 'u', 'l', 'l'] .null
  | bool_true : Denotes ['t', 'r', 'u', 'e'] (.bool true)
  | bool_false : Denotes ['f', 'a', 'l', 's', 'e'] (.bool false)
  | number {text : String} (number : IsNumber text.toList) : Denotes text.toList (.number text)
  | string {written : List Char} {text : String} (spelled : Spells written text.toList) :
      Denotes ('"' :: (written ++ ['"'])) (.string text)
  | array {written : List Char} {items : List Value}
      (listed : Bracketed '[' ']' Denotes written items) : Denotes written (.array items)
  | object {written : List Char} {fields : List (String × Value)}
      (listed : Bracketed '\x7b' '\x7d' (Named Denotes) written fields) :
      Denotes written (.object fields)

/-- A text of a value, which may have blanks around it. -/
def IsText (chars : List Char) (value : Value) : Prop :=
  ∃ before written after : List Char, Blank before ∧ Blank after ∧ Denotes written value ∧
    chars = before ++ (written ++ after)

/-! ## Where parts begin and end -/

theorem Blank.nil : Blank [] := List.forall_mem_nil _

theorem skipBlanks_cons {c : Char} (filled : isBlank c = false) (rest : List Char) :
    skipBlanks (c :: rest) = c :: rest := by
  rw [skipBlanks, List.dropWhile_cons, filled]
  rfl

theorem skipBlanks_append {blanks : List Char} (blank : Blank blanks) (rest : List Char) :
    skipBlanks (blanks ++ rest) = skipBlanks rest := by
  induction blanks with
  | nil => rfl
  | cons c blanks ih =>
      obtain ⟨first, others⟩ := List.forall_mem_cons.mp blank
      rw [skipBlanks, List.cons_append, List.dropWhile_cons, first]
      exact ih others

/-- What can follow a value: nothing, a blank, a comma, or the end of a list or an object. -/
def Delimited (rest : List Char) : Prop :=
  ∀ c ∈ rest.head?, isBlank c = true ∨ c = ',' ∨ c = ']' ∨ c = '\x7d'

theorem Delimited.cons {c : Char} (rest : List Char) (ends : c = ',' ∨ c = ']' ∨ c = '\x7d') :
    Delimited (c :: rest) := by
  rintro _ ⟨⟩
  exact .inr ends

theorem Delimited.behind_blanks {blanks rest : List Char} (blank : Blank blanks)
    (delimited : Delimited rest) : Delimited (blanks ++ rest) := by
  cases blanks with
  | nil => exact delimited
  | cons c blanks =>
      rintro _ ⟨⟩
      exact .inl (blank c List.mem_cons_self)

theorem Delimited.of_blank {blanks : List Char} (blank : Blank blanks) : Delimited blanks :=
  List.append_nil blanks ▸ Delimited.behind_blanks blank (fun _ none => by cases none)

/-- The text has a first character, and that is no blank and ends nothing. -/
def Fronted (written : List Char) : Prop :=
  ∃ c tail, written = c :: tail ∧ isBlank c = false ∧ c ≠ ']' ∧ c ≠ '\x7d'

theorem Fronted.skipBlanks_append {written : List Char} (fronted : Fronted written)
    (rest : List Char) : skipBlanks (written ++ rest) = written ++ rest := by
  obtain ⟨c, tail, rfl, filled, _⟩ := fronted
  exact skipBlanks_cons filled _

/-- What comes behind blanks is not touched by how many they are. -/
theorem eq_behind_blanks {before before' rest rest' : List Char} (blank : Blank before)
    (blank' : Blank before') (same : before ++ rest = before' ++ rest') :
    skipBlanks rest = skipBlanks rest' := by
  rw [← skipBlanks_append blank, same, skipBlanks_append blank']

/-! ## One text, one value -/

/-- If a text goes on with this part, it goes on with no other, and the part has one end. -/
def Determined {α : Type} (part : List Char → α → Prop) (a : α) : Prop :=
  ∀ ⦃written written' rest rest' : List Char⦄ ⦃a' : α⦄, part written a → part written' a' →
    written ++ rest = written' ++ rest' → Delimited rest → Delimited rest' → a = a' ∧ rest = rest'

/-! ### Strings -/

/-- Characters that stand for themselves are read as such. -/
theorem stringFrom_plain {c : Char} (notQuote : c ≠ '"') (notBackslash : c ≠ '\\')
    (shown : isControl c = false) (read rest : List Char) :
    stringFrom read (c :: rest) = stringFrom (c :: read) rest := by
  rw [stringFrom]
  · rw [shown]
    rfl
  · intro quote
    exact notQuote quote
  · intro backslash _
    exact notBackslash backslash
  · intro a b c d tail backslash _
    exact notBackslash backslash
  · intro tail backslash _
    exact notBackslash backslash
  · intro letter tail backslash _
    exact notBackslash backslash

theorem stringFrom_short {letter meant : Char} (stands : shortEscape? letter = some meant)
    (read rest : List Char) :
    stringFrom read ('\\' :: letter :: rest) = stringFrom (meant :: read) rest := by
  have other : letter ≠ 'u' := by
    rintro rfl
    cases stands
  rw [stringFrom]
  · rw [stands]
  · intro a b c d tail same _
    exact other same
  · exact other

/-- What is spelled up to the next quote is what a string is read as. -/
theorem stringFrom_spelled {written text : List Char} (spelled : Spells written text)
    (read rest : List Char) :
    stringFrom read (written ++ '"' :: rest) = .ok (read.reverse ++ text, rest) := by
  induction spelled generalizing read with
  | nothing => rw [List.nil_append, stringFrom, List.append_nil]
  | plain notQuote notBackslash shown _ ih =>
      rw [List.cons_append, stringFrom_plain notQuote notBackslash shown, ih, List.reverse_cons,
        List.append_assoc]
      rfl
  | short stands _ ih =>
      rw [List.cons_append, List.cons_append, stringFrom_short stands, ih, List.reverse_cons,
        List.append_assoc]
      rfl
  | code stands notHigh notLow _ ih =>
      simp only [List.cons_append]
      rw [stringFrom]
      simp only [stands, notHigh, notLow, Bool.false_eq_true, if_false]
      rw [ih, List.reverse_cons, List.append_assoc]
      rfl
  | @pair _ _ _ _ _ _ _ _ high _ _ _ stands stands' isHigh isLow _ ih =>
      have notLow : isLowSurrogate high = false := by
        rw [isHighSurrogate, Bool.and_eq_true, decide_eq_true_eq, decide_eq_true_eq] at isHigh
        rw [isLowSurrogate, Bool.and_eq_false_iff, decide_eq_false_iff_not]
        exact .inl (by omega)
      simp only [List.cons_append]
      rw [stringFrom]
      simp only [stands, stands', notLow, isHigh, isLow, Bool.false_eq_true, if_false, if_true]
      rw [ih, List.reverse_cons, List.append_assoc]
      rfl

theorem Spells.unique {written written' text text' rest rest' : List Char}
    (spelled : Spells written text) (spelled' : Spells written' text')
    (same : written ++ '"' :: rest = written' ++ '"' :: rest') : text = text' ∧ rest = rest' := by
  have read := stringFrom_spelled spelled [] rest
  rw [same, stringFrom_spelled spelled' [] rest', Except.ok.injEq, Prod.mk.injEq] at read
  exact ⟨read.1.symm, read.2.symm⟩

/-! ### Numbers -/

/-- Whether a character can stand in a number. -/
def inNumber (c : Char) : Bool :=
  Number.isDigit c || c == '-' || c == '+' || c == '.' || c == 'e' || c == 'E'

theorem inNumber_of_isDigit {c : Char} (digit : Number.isDigit c = true) : inNumber c = true := by
  rw [inNumber, digit]
  rfl

theorem IsDigits.inNumber {chars : List Char} (digits : IsDigits chars) :
    ∀ c ∈ chars, inNumber c = true :=
  fun c among => inNumber_of_isDigit (digits.2 c among)

theorem IsNumber.inNumber {chars : List Char} (number : IsNumber chars) :
    ∀ c ∈ chars, inNumber c = true := by
  obtain ⟨signed, isWhole, isFraction, isExponent⟩ := number
  simp only [List.forall_mem_append]
  refine ⟨⟨⟨?_, ?_⟩, ?_⟩, ?_⟩
  · rcases signed with rfl | rfl
    · exact List.forall_mem_nil _
    · exact List.forall_mem_singleton.mpr rfl
  · cases isWhole with
    | zero => exact List.forall_mem_singleton.mpr rfl
    | digits digits _ => exact digits.inNumber
  · cases isFraction with
    | none => exact List.forall_mem_nil _
    | digits digits => exact List.forall_mem_cons.mpr ⟨rfl, digits.inNumber⟩
  · cases isExponent with
    | none => exact List.forall_mem_nil _
    | power marked signed digits =>
        refine List.forall_mem_cons.mpr ⟨?_, List.forall_mem_append.mpr ⟨?_, digits.inNumber⟩⟩
        · rcases marked with rfl | rfl <;> rfl
        · rcases signed with rfl | rfl | rfl
          · exact List.forall_mem_nil _
          · exact List.forall_mem_singleton.mpr rfl
          · exact List.forall_mem_singleton.mpr rfl

/-- A number begins with a digit or a minus sign. -/
theorem IsNumber.front {chars : List Char} (number : IsNumber chars) :
    ∃ c tail, chars = c :: tail ∧ (c = '-' ∨ Number.isDigit c = true) := by
  obtain ⟨signed, isWhole, _, _⟩ := number
  rcases signed with rfl | rfl
  · cases isWhole with
    | zero => exact ⟨'0', _, rfl, .inr rfl⟩
    | @digits whole digits _ =>
        obtain ⟨c, tail, rfl⟩ := List.exists_cons_of_ne_nil digits.1
        exact ⟨c, _, rfl, .inr (digits.2 c List.mem_cons_self)⟩
  · exact ⟨'-', _, rfl, .inl rfl⟩

theorem takeWhile_inNumber {chars rest : List Char} (all : ∀ c ∈ chars, inNumber c = true)
    (delimited : Delimited rest) : (chars ++ rest).takeWhile inNumber = chars := by
  have stops : rest.takeWhile inNumber = [] := by
    cases rest with
    | nil => rfl
    | cons c rest =>
        have outside : inNumber c = false := by
          rcases delimited c rfl with blank | rfl | rfl | rfl
          · simp only [isBlank, Bool.or_eq_true, decide_eq_true_eq] at blank
            rcases blank with ((rfl | rfl) | rfl) | rfl <;> rfl
          · rfl
          · rfl
          · rfl
        rw [List.takeWhile_cons, outside]
        rfl
  rw [List.takeWhile_append_of_pos all, stops, List.append_nil]

theorem IsNumber.unique {chars chars' rest rest' : List Char} (number : IsNumber chars)
    (number' : IsNumber chars') (same : chars ++ rest = chars' ++ rest')
    (delimited : Delimited rest) (delimited' : Delimited rest') :
    chars = chars' ∧ rest = rest' := by
  have front := takeWhile_inNumber number.inNumber delimited
  rw [same, takeWhile_inNumber number'.inNumber delimited'] at front
  subst front
  exact ⟨rfl, List.append_cancel_left same⟩

/-! ### Lists of parts -/

section Parts

variable {α : Type} {part : List Char → α → Prop} (fronted : ∀ {w a}, part w a → Fronted w)
include fronted

/-- A part with what follows it, up to a character that is no blank. -/
theorem part_unique {a a' : α} {before written after rest before' written' after' rest' : List Char}
    {c c' : Char} (determined : Determined part a) (is : part written a) (is' : part written' a')
    (blank : Blank before) (blank' : Blank before') (blankAfter : Blank after)
    (blankAfter' : Blank after') (ends : c = ',' ∨ c = ']' ∨ c = '\x7d')
    (ends' : c' = ',' ∨ c' = ']' ∨ c' = '\x7d')
    (same : before ++ (written ++ (after ++ c :: rest)) =
      before' ++ (written' ++ (after' ++ c' :: rest'))) :
    a = a' ∧ c :: rest = c' :: rest' := by
  have filled {c : Char} (ends : c = ',' ∨ c = ']' ∨ c = '\x7d') : isBlank c = false := by
    rcases ends with rfl | rfl | rfl <;> rfl
  have onward := eq_behind_blanks blank blank' same
  rw [(fronted is).skipBlanks_append, (fronted is').skipBlanks_append] at onward
  obtain ⟨rfl, later⟩ := determined is is' onward (.behind_blanks blankAfter (.cons _ ends))
    (.behind_blanks blankAfter' (.cons _ ends'))
  have behind := eq_behind_blanks blankAfter blankAfter' later
  rw [skipBlanks_cons (filled ends), skipBlanks_cons (filled ends')] at behind
  exact ⟨rfl, behind⟩

theorem Separated.unique {as as' : List α} {closing : Char}
    {written written' rest rest' : List Char} (determined : ∀ a ∈ as, Determined part a)
    (closes : closing = ']' ∨ closing = '\x7d')
    (one : Separated part written as) (other : Separated part written' as')
    (same : written ++ closing :: rest = written' ++ closing :: rest') :
    as = as' ∧ rest = rest' := by
  have notComma : closing ≠ ',' := by rcases closes with rfl | rfl <;> decide
  induction one generalizing written' as' with
  | last blank blankAfter is =>
      have first := determined _ List.mem_cons_self
      cases other with
      | last blank' blankAfter' is' =>
          simp only [List.append_assoc] at same
          obtain ⟨rfl, behind⟩ := part_unique fronted first is is' blank blank' blankAfter
            blankAfter' (.inr closes) (.inr closes) same
          exact ⟨rfl, (List.cons.inj behind).2⟩
      | next blank' blankAfter' is' _ =>
          simp only [List.append_assoc, List.cons_append] at same
          obtain ⟨_, behind⟩ := part_unique fronted first is is' blank blank' blankAfter
            blankAfter' (.inr closes) (.inl rfl) same
          exact absurd (List.cons.inj behind).1 notComma
  | next blank blankAfter is _ ih =>
      obtain ⟨first, others⟩ := List.forall_mem_cons.mp determined
      cases other with
      | last blank' blankAfter' is' =>
          simp only [List.append_assoc, List.cons_append] at same
          obtain ⟨_, behind⟩ := part_unique fronted first is is' blank blank' blankAfter
            blankAfter' (.inl rfl) (.inr closes) same
          exact absurd (List.cons.inj behind).1.symm notComma
      | next blank' blankAfter' is' more' =>
          simp only [List.append_assoc, List.cons_append] at same
          obtain ⟨rfl, behind⟩ := part_unique fronted first is is' blank blank' blankAfter
            blankAfter' (.inl rfl) (.inl rfl) same
          obtain ⟨rfl, ends⟩ := ih others more' (List.cons.inj behind).2
          exact ⟨rfl, ends⟩

/-- Parts are not nothing. -/
theorem Separated.ne_blank {as : List α} {closing : Char} {written blanks rest rest' : List Char}
    (closes : closing = ']' ∨ closing = '\x7d') (one : Separated part written as)
    (blank : Blank blanks) : written ++ closing :: rest ≠ blanks ++ closing :: rest' := by
  intro same
  have filled : isBlank closing = false := by rcases closes with rfl | rfl <;> rfl
  have clash {w tail : List Char} {a : α} (is : part w a)
      (same : skipBlanks (w ++ tail) = skipBlanks (closing :: rest')) : False := by
    rw [(fronted is).skipBlanks_append, skipBlanks_cons filled] at same
    obtain ⟨c, others, rfl, _, notBracket, notBrace⟩ := fronted is
    obtain ⟨rfl, _⟩ := List.cons.inj same
    rcases closes with rfl | rfl
    · exact notBracket rfl
    · exact notBrace rfl
  cases one with
  | last blank' _ is =>
      simp only [List.append_assoc] at same
      exact clash is (eq_behind_blanks blank' blank same)
  | next blank' _ is _ =>
      simp only [List.append_assoc] at same
      exact clash is (eq_behind_blanks blank' blank same)

theorem Bracketed.unique {as as' : List α} {opening closing : Char}
    {written written' rest rest' : List Char} (determined : ∀ a ∈ as, Determined part a)
    (closes : closing = ']' ∨ closing = '\x7d') (one : Bracketed opening closing part written as)
    (other : Bracketed opening closing part written' as')
    (same : written ++ rest = written' ++ rest') : as = as' ∧ rest = rest' := by
  have filled : isBlank closing = false := by rcases closes with rfl | rfl <;> rfl
  cases one with
  | nothing blank =>
      cases other with
      | nothing blank' =>
          simp only [List.cons_append, List.append_assoc, List.cons.injEq, true_and,
            List.nil_append] at same
          have behind := eq_behind_blanks blank blank' same
          rw [skipBlanks_cons filled, skipBlanks_cons filled] at behind
          exact ⟨rfl, (List.cons.inj behind).2⟩
      | parts separated' =>
          simp only [List.cons_append, List.append_assoc, List.cons.injEq, true_and,
            List.nil_append] at same
          exact absurd same.symm (separated'.ne_blank fronted closes blank)
  | parts separated =>
      cases other with
      | nothing blank' =>
          simp only [List.cons_append, List.append_assoc, List.cons.injEq, true_and,
            List.nil_append] at same
          exact absurd same (separated.ne_blank fronted closes blank')
      | parts separated' =>
          simp only [List.cons_append, List.append_assoc, List.cons.injEq, true_and,
            List.nil_append] at same
          exact separated.unique fronted determined closes separated' same

end Parts

/-! ### Values -/

/-- A statement holds of every value if it holds of what has no parts, and of lists and objects
of which the parts have it. -/
@[elab_as_elim]
theorem Value.parts_induction {motive : Value → Prop} (null : motive null)
    (bool : ∀ value, motive (bool value)) (number : ∀ text, motive (number text))
    (string : ∀ text, motive (string text))
    (array : ∀ items, (∀ item ∈ items, motive item) → motive (array items))
    (object : ∀ fields, (∀ field ∈ fields, motive field.2) → motive (object fields))
    (value : Value) : motive value :=
  @Value.rec motive (fun items => ∀ item ∈ items, motive item)
    (fun fields => ∀ field ∈ fields, motive field.2) (fun field => motive field.2)
    null bool number string array object
    (List.forall_mem_nil _) (fun _ _ first others => List.forall_mem_cons.mpr ⟨first, others⟩)
    (List.forall_mem_nil _) (fun _ _ first others => List.forall_mem_cons.mpr ⟨first, others⟩)
    (fun _ _ value => value) value

/-- The kinds of values that are told by their first characters. -/
def Value.kind : Value → Nat
  | null => 0
  | bool true => 1
  | bool false => 2
  | number _ => 3
  | string _ => 4
  | array _ => 5
  | object _ => 6

/-- The kind of a value with this first character. -/
def kindOf (c : Char) : Nat :=
  if c = 'n' then 0 else if c = 't' then 1 else if c = 'f' then 2 else if c = '"' then 4
  else if c = '[' then 5 else if c = '\x7b' then 6 else 3

theorem kindOf_digit {c : Char} (digit : c = '-' ∨ Number.isDigit c = true) :
    kindOf c = 3 ∧ isBlank c = false ∧ c ≠ ']' ∧ c ≠ '\x7d' := by
  have other {special : Char} (noDigit : ¬ (special = '-' ∨ Number.isDigit special = true)) :
      c ≠ special := by
    rintro rfl
    exact noDigit digit
  have filled : isBlank c = false := by
    simp only [isBlank, Bool.or_eq_false_iff, decide_eq_false_iff_not]
    exact ⟨⟨⟨other (by decide), other (by decide)⟩, other (by decide)⟩, other (by decide)⟩
  refine ⟨?_, filled, other (by decide), other (by decide)⟩
  rw [kindOf, if_neg (other (by decide)), if_neg (other (by decide)), if_neg (other (by decide)),
    if_neg (other (by decide)), if_neg (other (by decide)), if_neg (other (by decide))]

theorem Denotes.front {written : List Char} {value : Value} (is : Denotes written value) :
    ∃ c tail, written = c :: tail ∧ kindOf c = value.kind ∧ isBlank c = false ∧ c ≠ ']' ∧
      c ≠ '\x7d' := by
  cases is with
  | null => exact ⟨'n', _, rfl, by decide⟩
  | bool_true => exact ⟨'t', _, rfl, by decide⟩
  | bool_false => exact ⟨'f', _, rfl, by decide⟩
  | number number =>
      obtain ⟨c, tail, front, digit⟩ := number.front
      exact ⟨c, tail, front, kindOf_digit digit⟩
  | string spelled => exact ⟨'"', _, rfl, rfl, by decide⟩
  | array listed => cases listed <;> exact ⟨'[', _, rfl, rfl, by decide⟩
  | object listed => cases listed <;> exact ⟨'\x7b', _, rfl, rfl, by decide⟩

theorem Denotes.fronted {written : List Char} {value : Value} (is : Denotes written value) :
    Fronted written := by
  obtain ⟨c, tail, front, _, ends⟩ := is.front
  exact ⟨c, tail, front, ends⟩

theorem Named.fronted {written : List Char} {field : String × Value}
    (named : Named Denotes written field) : Fronted written := by
  cases named
  exact ⟨'"', _, rfl, by decide⟩

theorem Named.determined {field : String × Value} (determined : Determined Denotes field.2) :
    Determined (Named Denotes) field := by
  rintro _ _ rest rest' ⟨name', value'⟩ ⟨spelled, blank, blankAfter, is⟩
    ⟨spelled', blank', blankAfter', is'⟩ same delimited delimited'
  simp only [List.cons_append, List.append_assoc, List.cons.injEq, true_and] at same
  obtain ⟨name, behind⟩ := spelled.unique spelled' same
  have colon := eq_behind_blanks blank blank' behind
  rw [skipBlanks_cons rfl, skipBlanks_cons rfl, List.cons.injEq] at colon
  have onward := eq_behind_blanks blankAfter blankAfter' colon.2
  rw [is.fronted.skipBlanks_append, is'.fronted.skipBlanks_append] at onward
  obtain ⟨rfl, ends⟩ := determined is is' onward delimited delimited'
  exact ⟨Prod.ext (String.toList_injective name) rfl, ends⟩

/-- The first character tells the kind. -/
theorem Denotes.kind_eq {written written' rest rest' : List Char} {value value' : Value}
    (is : Denotes written value) (is' : Denotes written' value')
    (same : written ++ rest = written' ++ rest') : value.kind = value'.kind := by
  obtain ⟨c, tail, rfl, kind, _⟩ := is.front
  obtain ⟨c', tail', rfl, kind', _⟩ := is'.front
  rw [← kind, ← kind', (List.cons.inj same).1]

theorem Denotes.determined (value : Value) : Determined Denotes value := by
  induction value using Value.parts_induction with
  | null =>
      intro _ _ rest rest' value' is is' same _ _
      have kind := is.kind_eq is' same
      cases is
      cases is' with
      | null => exact ⟨rfl, List.append_cancel_left same⟩
      | _ => simp [Value.kind] at kind
  | bool value =>
      intro _ _ rest rest' value' is is' same _ _
      have kind := is.kind_eq is' same
      cases is with
      | bool_true =>
          cases is' with
          | bool_true => exact ⟨rfl, List.append_cancel_left same⟩
          | _ => simp [Value.kind] at kind
      | bool_false =>
          cases is' with
          | bool_false => exact ⟨rfl, List.append_cancel_left same⟩
          | _ => simp [Value.kind] at kind
  | number text =>
      intro _ _ rest rest' value' is is' same delimited delimited'
      have kind := is.kind_eq is' same
      cases is with
      | number number =>
          cases is' with
          | number number' =>
              obtain ⟨own, ends⟩ := number.unique number' same delimited delimited'
              exact ⟨congrArg Value.number (String.toList_injective own), ends⟩
          | _ => simp [Value.kind] at kind
  | string text =>
      intro _ _ rest rest' value' is is' same _ _
      have kind := is.kind_eq is' same
      cases is with
      | string spelled =>
          cases is' with
          | string spelled' =>
              simp only [List.cons_append, List.append_assoc, List.cons.injEq, true_and,
                List.nil_append] at same
              obtain ⟨own, ends⟩ := spelled.unique spelled' same
              exact ⟨congrArg Value.string (String.toList_injective own), ends⟩
          | _ => simp [Value.kind] at kind
  | array items ih =>
      intro _ _ rest rest' value' is is' same _ _
      have kind := is.kind_eq is' same
      cases is with
      | array listed =>
          cases is' with
          | array listed' =>
              obtain ⟨rfl, ends⟩ := listed.unique Denotes.fronted ih (.inl rfl) listed' same
              exact ⟨rfl, ends⟩
          | _ => simp [Value.kind] at kind
  | object fields ih =>
      intro _ _ rest rest' value' is is' same _ _
      have kind := is.kind_eq is' same
      cases is with
      | object listed =>
          cases is' with
          | object listed' =>
              obtain ⟨rfl, ends⟩ := listed.unique Named.fronted
                (fun field among => Named.determined (ih field among)) (.inr rfl) listed' same
              exact ⟨rfl, ends⟩
          | _ => simp [Value.kind] at kind

/-- A text is the text of one value at most. -/
theorem IsText.unique {chars : List Char} {value value' : Value} (text : IsText chars value)
    (text' : IsText chars value') : value = value' := by
  obtain ⟨before, written, after, blank, blankAfter, is, rfl⟩ := text
  obtain ⟨before', written', after', blank', blankAfter', is', same⟩ := text'
  have onward := eq_behind_blanks blank blank' same
  rw [is.fronted.skipBlanks_append, is'.fronted.skipBlanks_append] at onward
  exact (Denotes.determined value is is' onward (.of_blank blankAfter) (.of_blank blankAfter')).1

end TagCheck.Json
