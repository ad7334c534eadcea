/-
# Tags as they stand in a text

The lexer reports a tag by its form and its name. This module goes the other way and
says what stands in the text where a tag was found: an opening tag begins with its
bracket and its name (`openingText`), a closing tag runs from its bracket to the next
`>`, or to the end of a text that has none (`ClosesAs`).

All that a step can find is listed once, in `Stride.Finds`; `Stride.read_finds` is the
only place that takes the step apart. Names come back as bytes because a name is
ASCII, however it was cut off (`TagName.letters_spell_bytes`).
-/

import Mathlib.Data.List.TakeWhile
import TagCheck.Proofs.Stride

namespace TagCheck

/-! ## Names as bytes -/

/-- The bytes that write a string. -/
def Byte.letters (s : String) : Text := s.toUTF8.data.toList

theorem Byte.length_letters (s : String) : (letters s).length = s.utf8ByteSize := rfl

/-- ASCII bytes are their own spelling. -/
theorem Byte.letters_spell {bytes : List UInt8} (ascii : ∀ b ∈ bytes, b < 0x80) :
    letters (spell bytes) = bytes := by
  have alone (b : UInt8) (small : b < 0x80) : String.utf8EncodeChar (Char.ofUInt8 b) = [b] := by
    have bound : b.toNat ≤ 127 := Nat.le_of_lt_succ (UInt8.lt_iff_toNat_lt.mp small)
    have value : (Char.ofUInt8 b).val.toNat = b.toNat := UInt8.toNat_toUInt32 b
    simp [String.utf8EncodeChar, value, bound]
  have encoded : (bytes.map Char.ofUInt8).flatMap String.utf8EncodeChar = bytes := by
    induction bytes with
    | nil => rfl
    | cons b rest ih =>
        rw [List.map_cons, List.flatMap_cons, alone b (ascii b List.mem_cons_self),
          ih fun x among => ascii x (List.mem_cons_of_mem b among)]
        rfl
  rw [letters, spell, String.toUTF8, String.toByteArray_ofList, List.utf8Encode,
    List.data_toByteArray, encoded]

namespace TagName

theorem isAscii_of_isPart {b : UInt8} (part : isPart b = true) : b < 0x80 := by
  simp only [isPart, Byte.isLetter, Byte.isUpper, Byte.isLower, Byte.isDigit, Byte.minus,
    Byte.underscore, Byte.dot, Byte.colon] at part
  grind

theorem isPart_of_isStart {b : UInt8} (starts : isStart b = true) : isPart b = true := by
  rw [isStart, Bool.or_eq_true] at starts
  rcases starts with letter | underscore
  · simp only [isPart, letter, Bool.true_or]
  · simp only [isPart, underscore, Bool.or_true, Bool.true_or]

theorem isPart_of_mem_bytes {b : UInt8} {limit : Nat} {text : Text}
    (among : b ∈ bytes limit text) : isPart b = true :=
  List.mem_takeWhile_imp (List.mem_of_mem_take among)

/-- A name is found again in the text, cut off or not. -/
theorem letters_spell_bytes (limit : Nat) (text : Text) :
    Byte.letters (Byte.spell (bytes limit text)) = bytes limit text :=
  Byte.letters_spell fun _ among => isAscii_of_isPart (isPart_of_mem_bytes among)

theorem spell_bytes_ne_empty {limit : Nat} {text : Text} (named : bytes limit text ≠ []) :
    Byte.spell (bytes limit text) ≠ "" := by
  intro unnamed
  have nothing := letters_spell_bytes limit text
  rw [unnamed] at nothing
  exact named nothing.symm

end TagName

/-! ## What tags look like -/

/-- An opening tag up to the end of its name. The tag of a fragment ends there. -/
def openingText (name : String) : Text :=
  Byte.lessThan :: if name.isEmpty then [Byte.greaterThan] else Byte.letters name

/-- A closing tag up to the end of its name. -/
def closingText (name : String) : Text := Byte.lessThan :: Byte.slash :: Byte.letters name

/-- The bytes `tag` are the closing tag of an element of this name, or what there is of
it if the text ends first; `rest` is the text behind it. -/
structure ClosesAs (name : String) (tag rest : Text) : Prop where
  begins : closingText name <+: tag
  /-- The bracket that ends the tag is the first one in it. -/
  unbracketed : Byte.greaterThan ∉ tag.dropLast
  ends : tag.getLast? = some Byte.greaterThan ∨ rest = []

/-- The mark that points to an opening tag is as long as the tag up to its name. -/
theorem length_openingText (name : String) :
    (openingText name).length = max name.utf8ByteSize 1 + 1 := by
  by_cases unnamed : name = ""
  · rw [unnamed]
    rfl
  · have filled : 1 ≤ name.utf8ByteSize := by
      rw [Nat.one_le_iff_ne_zero, Ne, String.utf8ByteSize_eq_zero_iff]
      exact unnamed
    have notEmpty : name.isEmpty = false := by
      rw [Bool.eq_false_iff, Ne, String.isEmpty_iff]
      exact unnamed
    rw [openingText, notEmpty, if_neg Bool.false_ne_true, List.length_cons, Byte.length_letters,
      Nat.max_eq_left filled]

theorem openingText_of_bytes {limit : Nat} {text : Text} (named : TagName.bytes limit text ≠ []) :
    openingText (Byte.spell (TagName.bytes limit text)) =
      Byte.lessThan :: TagName.bytes limit text := by
  have notEmpty : (Byte.spell (TagName.bytes limit text)).isEmpty = false := by
    rw [Bool.eq_false_iff, Ne, String.isEmpty_iff]
    exact TagName.spell_bytes_ne_empty named
  rw [openingText, notEmpty, if_neg Bool.false_ne_true, TagName.letters_spell_bytes]

/-- A search passes what it seeks, unless it passes all there is. -/
theorem take_distance_succ (sought : UInt8 → Bool) (text : Text) :
    (∃ b, sought b = true ∧
        text.take (distance sought text + 1) = text.take (distance sought text) ++ [b]) ∨
      text.take (distance sought text + 1) = text.take (distance sought text) ∧
        text.drop (distance sought text + 1) = [] := by
  rw [List.take_add_one, List.drop_eq_nil_iff]
  by_cases inside : text.findIdx sought < text.length
  · left
    rw [distance, List.getElem?_eq_getElem inside]
    exact ⟨_, List.findIdx_getElem, rfl⟩
  · right
    have ended : text.length ≤ text.findIdx sought := Nat.le_of_not_lt inside
    rw [distance, List.getElem?_eq_none ended, Option.toList_none, List.append_nil]
    exact ⟨rfl, Nat.le_succ_of_le ended⟩

/-- The closing tag of a fragment. -/
theorem ClosesAs.fragment (rest : Text) :
    ClosesAs "" [Byte.lessThan, Byte.slash, Byte.greaterThan] rest :=
  ⟨⟨[Byte.greaterThan], rfl⟩, by decide, .inl rfl⟩

/-! ## What a step can find -/

namespace Stride

variable {options : ScanOptions} {rule : Option Rule}

/-- All that a bracket can turn out to begin, by the text behind it. -/
inductive Finds (options : ScanOptions) (rule : Option Rule) : Text → Stride → Prop
  | openingFragment (rest : Text) :
      Finds options rule (Byte.greaterThan :: rest) ⟨1, .code, some (.tag .opening "")⟩
  | closingFragment (rest : Text) :
      Finds options rule (Byte.slash :: Byte.greaterThan :: rest)
        ⟨2, .code, some (.tag .closing "")⟩
  | closingTag {first : UInt8} {rest : Text} (starts : TagName.isStart first = true)
      (named : TagName.bytes options.maxNameLength (first :: rest) ≠ []) :
      Finds options rule (Byte.slash :: first :: rest)
        ((closingTag options (first :: rest)).behind 1)
  | openingTag {first : UInt8} {rest : Text} (starts : TagName.isStart first = true)
      (named : TagName.bytes options.maxNameLength (first :: rest) ≠ [])
      (unclaimed : rule = none) :
      Finds options rule (first :: rest) (openingTag options (first :: rest))
  | typeBrackets {first : UInt8} {rest : Text} {claim : Rule}
      (starts : TagName.isStart first = true) (claimed : rule = some claim) :
      Finds options rule (first :: rest)
        ⟨typeArgumentsLength 1 0 (first :: rest), .code, some (.typeBrackets claim)⟩

theorem closingTag_found {ahead : Text} {f : Finding}
    (found : (closingTag options ahead).found = some f) :
    TagName.bytes options.maxNameLength ahead ≠ [] := by
  intro unnamed
  rw [closingTag_of_unnamed unnamed] at found
  cases found

theorem openingTag_found {ahead : Text} {f : Finding}
    (found : (openingTag options ahead).found = some f) :
    TagName.bytes options.maxNameLength ahead ≠ [] := by
  intro unnamed
  rw [openingTag_of_unnamed unnamed] at found
  cases found

/-- An opening tag with a name is found as such or as a single one. -/
theorem openingTag_eq_found {ahead : Text}
    (named : TagName.bytes options.maxNameLength ahead ≠ []) :
    ∃ form, form ≠ .closing ∧ (openingTag options ahead).found =
      some (.tag form (Byte.spell (TagName.bytes options.maxNameLength ahead))) := by
  rw [openingTag_of_named rfl named rfl]
  refine ⟨_, ?_, rfl⟩
  split
  · exact TagForm.noConfusion
  · exact TagForm.noConfusion

theorem angleBracket_finds {ahead : Text} {f : Finding}
    (found : (angleBracket options rule ahead).found = some f) :
    Finds options rule ahead (angleBracket options rule ahead) := by
  revert found
  fun_cases angleBracket options rule ahead with
  | case1 => exact fun found => by cases found
  | case2 => exact fun found => by cases found
  | case3 rest =>
      -- Behind the slash the rule has no say.
      intro found
      cases rest with
      | nil => cases found
      | cons first rest =>
          simp only [tagBody, behind] at found ⊢
          by_cases fragment : first = Byte.greaterThan
          · rw [if_pos fragment, fragment]
            exact .closingFragment rest
          · simp only [if_neg fragment] at found ⊢
            split at found
            · cases found
            · rename_i starts
              rw [if_neg starts]
              exact .closingTag (by simpa using starts) (closingTag_found found)
  | case4 first rest =>
      intro found
      simp only [tagBody] at found ⊢
      by_cases fragment : first = Byte.greaterThan
      · rw [if_pos fragment, fragment]
        exact .openingFragment rest
      · simp only [if_neg fragment] at found ⊢
        split at found
        · cases found
        · rename_i starts
          rw [if_neg starts]
          cases rule with
          | some claim => exact .typeBrackets (by simpa using starts) rfl
          | none => exact .openingTag (by simpa using starts) (openingTag_found found) rfl

/-- The first byte of a name is none that a bracket is told apart by. -/
theorem isStart_plain {b : UInt8} (starts : TagName.isStart b = true) :
    b ≠ Byte.greaterThan ∧ b ≠ Byte.slash ∧ followsOperator b = false := by
  refine ⟨?_, ?_, ?_⟩
  · rintro rfl
    exact absurd starts (by decide)
  · rintro rfl
    exact absurd starts (by decide)
  · rw [Bool.eq_false_iff]
    intro operator
    simp only [followsOperator, Bool.or_eq_true, beq_iff_eq] at operator
    rcases operator with ((rfl | rfl) | rfl) | rfl
    all_goals exact absurd starts (by decide)

/-- A bracket begins what the text behind it says, and nothing else. -/
theorem Finds.angleBracket_eq {ahead : Text} {s : Stride} (finds : Finds options rule ahead s) :
    angleBracket options rule ahead = s := by
  cases finds with
  | openingFragment rest => rfl
  | closingFragment rest => rfl
  | closingTag starts named =>
      obtain ⟨notBracket, _, _⟩ := isStart_plain starts
      change (tagBody options rule true _).behind 1 = _
      simp only [tagBody, if_neg notBracket, starts, Bool.not_true, if_neg Bool.false_ne_true,
        if_true]
  | openingTag starts named unclaimed =>
      obtain ⟨notBracket, notSlash, notOperator⟩ := isStart_plain starts
      simp only [angleBracket, notOperator, if_neg Bool.false_ne_true, if_neg notSlash, tagBody,
        if_neg notBracket, starts, Bool.not_true, unclaimed]
  | typeBrackets starts claimed =>
      obtain ⟨notBracket, notSlash, notOperator⟩ := isStart_plain starts
      simp only [angleBracket, notOperator, if_neg Bool.false_ne_true, if_neg notSlash, tagBody,
        if_neg notBracket, starts, Bool.not_true, claimed]

theorem read_bracket (previous : Option UInt8) (rest : Text) :
    read options .code previous rule (Byte.lessThan :: rest) =
      (angleBracket options rule rest).behind 1 := by
  cases rest <;> rfl

/-- Only a bracket in code begins anything. -/
theorem read_finds {mode : Mode} {previous : Option UInt8} {ahead : Text} {f : Finding}
    (found : (read options mode previous rule ahead).found = some f) :
    mode = .code ∧ ∃ rest s, ahead = Byte.lessThan :: rest ∧ Finds options rule rest s ∧
      read options mode previous rule ahead = s.behind 1 := by
  cases ahead with
  | nil => cases found
  | cons b rest =>
      simp only [read] at found ⊢
      by_cases lineEnds : b = Byte.lineFeed
      · rw [if_pos lineEnds] at found
        cases found
      · simp only [if_neg lineEnds] at found ⊢
        cases opened : mode.commentOpened? options (b :: rest) with
        | some comment =>
            rw [opened] at found
            cases found
        | none =>
            rw [opened] at found
            cases mode with
            | lineComment host => cases found
            | quoted quote => cases found
            | blockComment host => simp only at found; split at found <;> cases found
            | template depth => simp only at found; split at found <;> cases found
            | code =>
                simp only at found ⊢
                by_cases bracket : b = Byte.lessThan
                · rw [if_pos bracket] at found
                  rw [if_pos bracket, bracket]
                  exact ⟨trivial, rest, _, rfl, angleBracket_finds found, rfl⟩
                · rw [if_neg bracket] at found
                  cases found

/-! ## What the text says where a tag was found -/

/-- A closing tag is what its step passes. -/
theorem closingTag_closesAs {ahead : Text}
    (named : TagName.bytes options.maxNameLength ahead ≠ []) :
    ∃ name, (closingTag options ahead).found = some (.tag .closing name) ∧
      ClosesAs name
        (Byte.lessThan :: Byte.slash :: ahead.take (closingTag options ahead).length)
        (ahead.drop (closingTag options ahead).length) := by
  generalize read : TagName.bytes options.maxNameLength ahead = name at named
  have letters : Byte.letters (Byte.spell name) = name := by
    rw [← read, TagName.letters_spell_bytes]
  obtain ⟨rest, cut⟩ : name <+: ahead := read ▸ TagName.bytes_prefix _ _
  rw [closingTag_of_named read named]
  refine ⟨Byte.spell name, rfl, ?_⟩
  simp only
  rw [← cut, List.drop_left, List.take_length_add_append, List.drop_length_add_append]
  -- What stands before the bracket that is sought holds none.
  have clear : Byte.greaterThan ∉ Byte.lessThan :: Byte.slash ::
      (name ++ rest.take (distance (· == Byte.greaterThan) rest)) := by
    have nameClear : Byte.greaterThan ∉ name := by
      intro among
      have part := TagName.isPart_of_mem_bytes (read.symm ▸ among)
      exact absurd part (by decide)
    have restClear : Byte.greaterThan ∉ rest.take (distance (· == Byte.greaterThan) rest) :=
      not_mem_take_distance rfl rest
    simp only [List.mem_cons, List.mem_append, not_or]
    exact ⟨by decide, by decide, nameClear, restClear⟩
  have begins (after : Text) : closingText (Byte.spell name) <+:
      Byte.lessThan :: Byte.slash :: (name ++ after) := by
    rw [closingText, letters]
    exact List.prefix_append (Byte.lessThan :: Byte.slash :: name) after
  rcases take_distance_succ (· == Byte.greaterThan) rest with ⟨b, bracket, taken⟩ | ⟨taken, ended⟩
  · rw [beq_iff_eq] at bracket
    rw [taken, bracket]
    refine ⟨begins _, ?_, .inl ?_⟩
    · rw [← List.append_assoc, ← List.cons_append, ← List.cons_append, List.dropLast_concat]
      exact clear
    · rw [← List.append_assoc, ← List.cons_append, ← List.cons_append, List.getLast?_concat]
  · rw [taken, ended]
    exact ⟨begins _, fun among => clear (List.dropLast_subset _ among), .inr rfl⟩

section Reading

variable {mode : Mode} {previous : Option UInt8} {ahead : Text} {name : String}

theorem read_opening
    (found : (read options mode previous rule ahead).found = some (.tag .opening name)) :
    openingText name <+: ahead := by
  obtain ⟨_, rest, stride, cut, finds, same⟩ := read_finds found
  rw [same, behind] at found
  rw [cut]
  cases finds with
  | openingFragment rest =>
      cases found
      exact ⟨rest, rfl⟩
  | openingTag starts named unclaimed =>
      obtain ⟨form, _, spelled⟩ := openingTag_eq_found named
      cases found.symm.trans spelled
      rw [openingText_of_bytes named]
      exact List.cons_prefix_cons.mpr ⟨rfl, TagName.bytes_prefix _ _⟩
  | closingFragment => cases found
  | closingTag starts named =>
      obtain ⟨_, closing, _⟩ := closingTag_closesAs named
      cases found.symm.trans closing
  | typeBrackets => cases found

theorem read_closing
    (found : (read options mode previous rule ahead).found = some (.tag .closing name)) :
    ClosesAs name (ahead.take (read options mode previous rule ahead).length)
      (ahead.drop (read options mode previous rule ahead).length) := by
  obtain ⟨_, rest, stride, cut, finds, same⟩ := read_finds found
  rw [same, behind] at found
  rw [same, cut]
  cases finds with
  | closingFragment rest =>
      cases found
      exact .fragment rest
  | closingTag starts named =>
      obtain ⟨spelled, closing, closes⟩ := closingTag_closesAs named
      cases found.symm.trans closing
      simp only [behind, Nat.add_comm 1, List.take_succ_cons, List.drop_succ_cons]
      exact closes
  | openingTag starts named unclaimed =>
      obtain ⟨form, other, spelled⟩ := openingTag_eq_found named
      cases found.symm.trans spelled
      exact absurd rfl other
  | openingFragment => cases found
  | typeBrackets => cases found

end Reading

end Stride
end TagCheck
