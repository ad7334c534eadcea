/-
# What is written is JSON

A writer is lawful if what it writes for a value is a text of that value (`Writer.Lawful`).
All that it may ask of the value is that its numbers are numbers (`Value.Sound`). The writer
of this library is lawful, on one line as well as laid out: there is one law for parts with
commas between them, whatever blanks are put behind the commas.

Numbers come in two kinds. Natural numbers are written digit by digit, and decimals with a
point or with a power of ten, without a zero at their end; both are numbers of the grammar.
-/

import Mathlib.Data.List.DropRight
import TagCheck.Proofs.JsonGrammar

namespace TagCheck.Json

/-! ## Numbers -/

theorem digit?_digitChar {digit : Nat} (small : digit < 10) :
    Number.digit? (Nat.digitChar digit) = some digit := by
  revert digit
  decide

theorem isDigit_digitChar {digit : Nat} (small : digit < 10) :
    Number.isDigit (Nat.digitChar digit) = true := by
  rw [Number.isDigit, digit?_digitChar small]
  rfl

theorem digitChar_ne_zero {digit : Nat} (small : digit < 10) :
    0 < digit → Nat.digitChar digit ≠ '0' := by
  revert digit
  decide

/-- What is written of a number that is not zero begins with a digit that is not. -/
theorem toDigits_eq_cons {n : Nat} (positive : 0 < n) :
    ∃ digit tail, Nat.toDigits 10 n = Nat.digitChar digit :: tail ∧ 0 < digit ∧ digit < 10 := by
  induction n using Nat.strongRecOn with
  | ind n ih =>
      rw [Nat.toDigits_eq_if (by decide)]
      split
      · rename_i small
        exact ⟨n, [], rfl, positive, small⟩
      · obtain ⟨digit, tail, front, bounds⟩ := ih (n / 10) (by omega) (by omega)
        exact ⟨digit, tail ++ [Nat.digitChar (n % 10)], by rw [front, List.cons_append], bounds⟩

theorem isDigits_toDigits (n : Nat) : IsDigits (Nat.toDigits 10 n) := by
  induction n using Nat.strongRecOn with
  | ind n ih =>
      rw [Nat.toDigits_eq_if (by decide)]
      split
      · rename_i small
        refine ⟨List.cons_ne_nil _ _, ?_⟩
        rw [List.forall_mem_singleton]
        exact isDigit_digitChar small
      · obtain ⟨some, digits⟩ := ih (n / 10) (by omega)
        refine ⟨List.append_ne_nil_of_left_ne_nil some _, List.forall_mem_append.mpr ⟨digits, ?_⟩⟩
        rw [List.forall_mem_singleton]
        exact isDigit_digitChar (Nat.mod_lt n (by decide))

theorem isWhole_toDigits (n : Nat) : IsWhole (Nat.toDigits 10 n) := by
  cases n with
  | zero => exact .zero
  | succ n =>
      obtain ⟨digit, tail, front, positive, small⟩ := toDigits_eq_cons (Nat.succ_pos n)
      refine .digits (isDigits_toDigits _) ?_
      rw [front, List.head?_cons]
      exact fun same => digitChar_ne_zero small positive (Option.some.inj same)

/-- A whole number is a number. -/
theorem IsWhole.isNumber {chars : List Char} (whole : IsWhole chars) : IsNumber chars := by
  have number := IsNumber.mk (.inl rfl) whole .none .none
  rwa [List.nil_append, List.append_nil, List.append_nil] at number

theorem isNumber_natural (n : Nat) : IsNumber (toString n).toList := by
  rw [Nat.toString_eq_ofList_toDigits, String.toList_ofList]
  exact (isWhole_toDigits n).isNumber

/-- Digits that do not begin with a zero. -/
structure LeadingDigits (chars : List Char) : Prop where
  digits : IsDigits chars
  front : chars.head? ≠ some '0'

/-- The digits of a number without the zeros at the end. -/
theorem leadingDigits_trimZeros {n : Nat} (positive : 0 < n) :
    LeadingDigits (Decimal.trimZeros (Nat.toDigits 10 n)) := by
  obtain ⟨digit, tail, own, notZero, small⟩ := toDigits_eq_cons positive
  have kept : (Decimal.trimZeros (Nat.toDigits 10 n)) <+: Nat.toDigits 10 n :=
    List.rdropWhile_prefix _ _
  have some : Decimal.trimZeros (Nat.toDigits 10 n) ≠ [] := by
    intro none
    have all := List.rdropWhile_eq_nil_iff.mp none (Nat.digitChar digit)
      (own ▸ List.mem_cons_self)
    exact digitChar_ne_zero small notZero (of_decide_eq_true all)
  refine ⟨⟨some, fun c among => (isDigits_toDigits n).2 c (kept.subset among)⟩, ?_⟩
  obtain ⟨c, others, front⟩ := List.exists_cons_of_ne_nil some
  rw [front, own] at kept
  rw [front, List.head?_cons, (List.cons_prefix_cons.mp kept).1]
  exact fun same => digitChar_ne_zero small notZero (Option.some.inj same)

theorem isDigits_zeros {chars : List Char} (digits : IsDigits chars) (count : Nat) :
    IsDigits (List.replicate count '0' ++ chars) := by
  refine ⟨List.append_ne_nil_of_right_ne_nil _ digits.1, List.forall_mem_append.mpr ⟨?_, digits.2⟩⟩
  intro c among
  rw [List.eq_of_mem_replicate among]
  rfl

/-- Some of the digits at the front, and zeros behind them, do not begin with a zero either. -/
theorem LeadingDigits.take {chars : List Char} (leading : LeadingDigits chars) (more zeros : Nat) :
    LeadingDigits (chars.take (more + 1) ++ List.replicate zeros '0') := by
  obtain ⟨⟨some, digits⟩, front⟩ := leading
  obtain ⟨c, others, rfl⟩ := List.exists_cons_of_ne_nil some
  refine ⟨⟨List.cons_ne_nil _ _, List.forall_mem_append.mpr ⟨?_, ?_⟩⟩, front⟩
  · exact fun d among => digits d (List.mem_of_mem_take among)
  · intro d among
    rw [List.eq_of_mem_replicate among]
    rfl

/-- Behind the front of some digits there are none, or digits. -/
theorem LeadingDigits.drop {chars : List Char} (leading : LeadingDigits chars) (count : Nat) :
    (chars.drop count).isEmpty = true ∨ IsDigits (chars.drop count) := by
  cases rest : chars.drop count with
  | nil => exact .inl rfl
  | cons c others =>
      refine .inr ⟨List.cons_ne_nil _ _, fun d among => ?_⟩
      rw [← rest] at among
      exact leading.digits.2 d (List.mem_of_mem_drop among)

/-- A decimal that is not zero is written as a number. -/
theorem isNumber_render (d : Decimal.Digits) (positive : 0 < d.digits) :
    IsNumber (Decimal.render d).toList := by
  have leading := leadingDigits_trimZeros positive
  simp only [Decimal.render, String.toList_ofList]
  generalize Decimal.trimZeros (Nat.toDigits 10 d.digits) = digits at leading
  generalize d.scale + ((Nat.toDigits 10 d.digits).length : Int) - 1 = place
  split
  · -- less than one
    have number := IsNumber.mk (.inl rfl) .zero
      (.digits (isDigits_zeros leading.digits (-place - 1).toNat)) .none
    simpa using number
  · split
    · -- all digits stand where they belong
      have front := leading.take place.toNat (place.toNat + 1 - digits.length)
      have fraction : IsDigits (if (digits.drop (place.toNat + 1)).isEmpty then ['0']
          else digits.drop (place.toNat + 1)) := by
        rcases leading.drop (place.toNat + 1) with none | some
        · rw [if_pos none]
          exact ⟨List.cons_ne_nil _ _, List.forall_mem_singleton.mpr rfl⟩
        · rw [if_neg (by simpa using some.1)]
          exact some
      have number := IsNumber.mk (.inl rfl) (.digits front.digits front.front)
        (.digits fraction) .none
      simpa using number
    · -- the point stands behind the first digit, and the power of ten follows
      have front := leading.take 0 0
      have fraction :
          IsFraction (if (digits.drop 1).isEmpty then [] else '.' :: digits.drop 1) := by
        rcases leading.drop 1 with none | some
        · rw [if_pos none]
          exact .none
        · rw [if_neg (by simpa using some.1)]
          exact .digits some
      have signed : (if place < 0 then ['-'] else ['+']) = [] ∨
          (if place < 0 then ['-'] else ['+']) = ['+'] ∨
          (if place < 0 then ['-'] else ['+']) = ['-'] := by
        split
        · exact .inr (.inr rfl)
        · exact .inr (.inl rfl)
      have number := IsNumber.mk (.inl rfl) (.digits front.digits front.front) fraction
        (.power (.inl rfl) signed (isDigits_toDigits place.natAbs))
      have written : (if place < 0 then ['-'] else ['+']) = [if place < 0 then '-' else '+'] := by
        split <;> rfl
      rw [written] at number
      simpa using number

/-! ## Values -/

/-- All numbers in a value are numbers. -/
inductive Value.Sound : Value → Prop
  | null : Sound null
  | bool (value : Bool) : Sound (bool value)
  | number {text : String} (isNumber : IsNumber text.toList) : Sound (number text)
  | string (text : String) : Sound (string text)
  | array {items : List Value} (sound : ∀ item ∈ items, Sound item) : Sound (array items)
  | object {fields : List (String × Value)} (sound : ∀ field ∈ fields, Sound field.2) :
      Sound (object fields)

/-- What a writer writes for a value is a text of that value. -/
structure Writer.Lawful [Writer] : Prop where
  line : ∀ value : Value, value.Sound → IsText (Writer.line value).toList value
  text : ∀ value : Value, value.Sound → IsText (Writer.text value).toList value

/-- The code of a control character as it is written. -/
theorem fourDigits?_control (unit : Nat) (control : unit < 0x20) :
    fourDigits? ['0', '0', Nat.digitChar (unit / 16), Nat.digitChar (unit % 16)] = some unit := by
  revert unit
  decide

/-- However a character is written in a string, it is spelled. -/
theorem Spells.escape {written text : List Char} (c : Char) (more : Spells written text) :
    Spells (escape c ++ written) (c :: text) := by
  unfold Json.escape
  -- Seven characters have an escape of two characters each.
  iterate 7
    split
    · rename_i same
      subst same
      exact .short rfl more
  split
  · rename_i control
    have low : c.toNat < 0x20 := of_decide_eq_true control
    have notHigh : isHighSurrogate c.toNat = false := by
      rw [isHighSurrogate, Bool.and_eq_false_iff, decide_eq_false_iff_not]
      exact .inl (by omega)
    have notLow : isLowSurrogate c.toNat = false := by
      rw [isLowSurrogate, Bool.and_eq_false_iff, decide_eq_false_iff_not]
      exact .inl (by omega)
    have coded := Spells.code (fourDigits?_control c.toNat low) notHigh notLow more
    rwa [Char.ofNat_toNat] at coded
  · rename_i notQuote notBackslash _ _ _ _ _ shown
    exact .plain notQuote notBackslash (Bool.eq_false_iff.mpr shown) more

theorem spells_escape (text : List Char) : Spells (text.flatMap escape) text := by
  induction text with
  | nil => exact .nothing
  | cons c text ih => exact .escape c ih

/-- Parts with commas between them, where blanks follow each comma. -/
theorem separated_intercalate {α : Type} {part : List Char → α → Prop} {write : α → List Char}
    {gap before after : List Char} (blankGap : Blank gap) (blank : Blank before)
    (blankAfter : Blank after) {as : List α} (some : as ≠ [])
    (is : ∀ a ∈ as, part (write a) a) :
    Separated part (before ++ ((',' :: gap).intercalate (as.map write) ++ after)) as := by
  induction as generalizing before with
  | nil => exact absurd rfl some
  | cons a as ih =>
      obtain ⟨first, others⟩ := List.forall_mem_cons.mp is
      cases as with
      | nil =>
          rw [List.map_singleton, List.intercalate_singleton]
          exact .last blank blankAfter first
      | cons a' as =>
          have more := ih blankGap (List.cons_ne_nil _ _) others
          have whole := Separated.next blank .nil first more
          simpa [List.intercalate_cons_cons] using whole

namespace Value

theorem compactItems_eq (items : List Value) : compactItems items = items.map compact := by
  induction items with
  | nil => rfl
  | cons item items ih => rw [compactItems, ih]; rfl

theorem compactFields_eq (fields : List (String × Value)) :
    compactFields fields =
      fields.map fun field => quote field.1.toList ++ ':' :: field.2.compact := by
  induction fields with
  | nil => rfl
  | cons field fields ih => rw [compactFields, ih]; rfl

theorem layoutItems_eq (level : Nat) (items : List Value) :
    layoutItems level items = items.map (layout level) := by
  induction items with
  | nil => rfl
  | cons item items ih => rw [layoutItems, ih]; rfl

theorem layoutFields_eq (level : Nat) (fields : List (String × Value)) :
    layoutFields level fields =
      fields.map fun field => quote field.1.toList ++ ':' :: ' ' :: field.2.layout level := by
  induction fields with
  | nil => rfl
  | cons field fields ih => rw [layoutFields, ih]; rfl

end Value

theorem quote_eq (text : List Char) : quote text = '"' :: (text.flatMap escape ++ ['"']) := rfl

theorem denotes_quote (text : String) : Denotes (quote text.toList) (.string text) :=
  .string (spells_escape text.toList)

/-- A field with blanks behind the colon. -/
theorem named_quote {blanks written : List Char} {value : Value} (name : String)
    (blank : Blank blanks) (is : Denotes written value) :
    Named Denotes (quote name.toList ++ ':' :: (blanks ++ written)) (name, value) := by
  have named := Named.mk (spells_escape name.toList) .nil blank is
  simpa [quote_eq] using named

/-- Parts on one line between brackets. -/
theorem bracketed_line {α : Type} {part : List Char → α → Prop} {write : α → List Char}
    (opening closing : Char) {as : List α} (is : ∀ a ∈ as, part (write a) a) :
    Bracketed opening closing part
      (opening :: Value.commaSeparated (as.map write) ++ [closing]) as := by
  cases as with
  | nil => exact .nothing .nil
  | cons a as =>
      have separated := separated_intercalate .nil .nil .nil (List.cons_ne_nil a as) is
      rw [List.nil_append, List.append_nil] at separated
      exact .parts separated

theorem blank_newLine (level : Nat) : Blank (Value.newLine level) := by
  refine List.forall_mem_cons.mpr ⟨rfl, fun c among => ?_⟩
  rw [List.eq_of_mem_replicate among]
  rfl

/-- Parts laid out between brackets. -/
theorem bracketed_block {α : Type} {part : List Char → α → Prop} {write : α → List Char}
    (opening closing : Char) (level : Nat) {as : List α} (is : ∀ a ∈ as, part (write a) a) :
    Bracketed opening closing part (Value.block opening closing level (as.map write)) as := by
  cases as with
  | nil => exact .nothing .nil
  | cons a as =>
      have separated := separated_intercalate (blank_newLine (level + 1))
        (blank_newLine (level + 1)) (blank_newLine level) (List.cons_ne_nil a as) is
      have bracketed : Bracketed opening closing part _ (a :: as) := .parts separated
      simpa [Value.block] using bracketed

namespace Value

/-- On one line, a value is written as a text of it. -/
theorem denotes_compact {value : Value} (sound : value.Sound) : Denotes value.compact value := by
  induction value using Value.parts_induction with
  | null => exact .null
  | bool value =>
      cases value with
      | false => exact .bool_false
      | true => exact .bool_true
  | number text =>
      cases sound with
      | number isNumber => exact .number isNumber
  | string text => exact denotes_quote text
  | array items ih =>
      cases sound with
      | array sound =>
          rw [compact, compactItems_eq]
          exact .array (bracketed_line '[' ']' fun item among => ih item among (sound item among))
  | object fields ih =>
      cases sound with
      | object sound =>
          rw [compact, compactFields_eq]
          exact .object (bracketed_line '\x7b' '\x7d' fun field among =>
            named_quote field.1 .nil (ih field among (sound field among)))

/-- Laid out, too. -/
theorem denotes_layout {value : Value} (sound : value.Sound) (level : Nat) :
    Denotes (value.layout level) value := by
  induction value using Value.parts_induction generalizing level with
  | null => exact .null
  | bool value =>
      cases value with
      | false => exact .bool_false
      | true => exact .bool_true
  | number text =>
      cases sound with
      | number isNumber => exact .number isNumber
  | string text => exact denotes_quote text
  | array items ih =>
      cases sound with
      | array sound =>
          rw [layout, layoutItems_eq]
          exact .array (bracketed_block '[' ']' level fun item among =>
            ih item among (sound item among) (level + 1))
  | object fields ih =>
      cases sound with
      | object sound =>
          have space : Blank [' '] := List.forall_mem_singleton.mpr rfl
          rw [layout, layoutFields_eq]
          exact .object (bracketed_block '\x7b' '\x7d' level fun field among =>
            named_quote field.1 space (ih field among (sound field among) (level + 1)))

end Value

theorem Denotes.isText {written : List Char} {value : Value} (is : Denotes written value) :
    IsText written value :=
  ⟨[], written, [], .nil, .nil, is, (List.append_nil _).symm⟩

/-- The writer of this library is lawful. -/
theorem Writer.lawful : Writer.Lawful where
  line value sound := by
    change IsText (String.ofList value.compact).toList value
    rw [String.toList_ofList]
    exact (Value.denotes_compact sound).isText
  text value sound := by
    change IsText (String.ofList (value.layout 0)).toList value
    rw [String.toList_ofList]
    exact (Value.denotes_layout sound 0).isText

end TagCheck.Json
