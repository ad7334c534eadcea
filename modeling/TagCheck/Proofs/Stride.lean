/-
# What a step reads

A step of the lexer looks back at two things only: the byte just passed, and the
rule that the text so far gives for a bracket. Everything else it decides from
the text ahead. A `Stride` is the step with the cursor left out: how many bytes it
passes, the mode it leaves, and what it found, as a function of those three.

`step_eq_stride` puts the cursor back. Two runs can therefore be compared by
comparing strides, without mention of positions, and every fact about positions
is one about passing bytes.
-/

import TagCheck.Markup.Lexer
import TagCheck.Proofs.CursorMoves

namespace TagCheck

/-- What a lexeme is, apart from where it is. -/
inductive Finding where
  | tag (form : TagForm) (name : String)
  | typeBrackets (rule : Rule)
  deriving DecidableEq, Repr

/-- The lexeme of a finding that begins at `site` and ends before `stop`. -/
def Finding.lexeme (site : Position) (stop : Nat) : Finding → Lexeme
  | tag form name => .tag ⟨form, name, site, stop⟩
  | typeBrackets rule => .typeBrackets site rule

theorem Tag.span_eq (form : TagForm) (name : String) (site : Position) (length : Nat) :
    Tag.span ⟨form, name, site, site.offset + length⟩ = ⟨site.offset, length⟩ := by
  rw [span, Position.spanTo, Span.between, Nat.add_sub_cancel_left]

/-- The outcome of a step, apart from where it was made. -/
structure Stride where
  /-- How many bytes are passed; beyond the end of the text there is nothing to
  pass. -/
  length : Nat
  /-- The mode after the step. -/
  mode : Mode
  found : Option Finding
  deriving DecidableEq, Repr

theorem TagName.bytes_prefix (limit : Nat) (text : Text) : bytes limit text <+: text :=
  (List.take_prefix _ _).trans (List.takeWhile_prefix _)

namespace Stride

/-- A stride preceded by bytes that decide nothing more. -/
def behind (count : Nat) (s : Stride) : Stride := { s with length := count + s.length }

/-- A stretch of code in which no lexeme ends. -/
def plain (length : Nat) : Stride := ⟨length, .code, none⟩

/-- A closing tag, from its name on. -/
def closingTag (options : ScanOptions) (ahead : Text) : Stride :=
  let name := TagName.bytes options.maxNameLength ahead
  if name.isEmpty then plain 0
  else
    ⟨name.length + (distance (· == Byte.greaterThan) (ahead.drop name.length) + 1), .code,
      some (.tag .closing (Byte.spell name))⟩

/-- An opening tag, from its name on. -/
def openingTag (options : ScanOptions) (ahead : Text) : Stride :=
  let name := TagName.bytes options.maxNameLength ahead
  if name.isEmpty then plain 0
  else
    let rest := attributes name.getLast? none 0 0 (ahead.drop name.length)
    let form :=
      if rest.selfClosing || TagName.isVoid (Byte.spell name) then TagForm.single else .opening
    ⟨name.length + rest.length, .code, some (.tag form (Byte.spell name))⟩

section Names

variable {options : ScanOptions} {ahead name : Text}

theorem closingTag_of_unnamed (unnamed : TagName.bytes options.maxNameLength ahead = []) :
    closingTag options ahead = plain 0 := by
  rw [closingTag, unnamed]
  rfl

theorem openingTag_of_unnamed (unnamed : TagName.bytes options.maxNameLength ahead = []) :
    openingTag options ahead = plain 0 := by
  rw [openingTag, unnamed]
  rfl

theorem closingTag_of_named (read : TagName.bytes options.maxNameLength ahead = name)
    (named : name ≠ []) :
    closingTag options ahead =
      ⟨name.length + (distance (· == Byte.greaterThan) (ahead.drop name.length) + 1), .code,
        some (.tag .closing (Byte.spell name))⟩ := by
  simp only [closingTag, read]
  exact if_neg fun empty => named (List.isEmpty_iff.mp empty)

theorem openingTag_of_named (read : TagName.bytes options.maxNameLength ahead = name)
    (named : name ≠ []) {tail : Attributes}
    (ends : attributes name.getLast? none 0 0 (ahead.drop name.length) = tail) :
    openingTag options ahead =
      ⟨name.length + tail.length, .code,
        some (.tag (if tail.selfClosing || TagName.isVoid (Byte.spell name) then .single
          else .opening) (Byte.spell name))⟩ := by
  simp only [openingTag, read, ends]
  exact if_neg fun empty => named (List.isEmpty_iff.mp empty)

end Names

/-- What a bracket begins, from the byte after it or after the slash of a closing
tag. -/
def tagBody (options : ScanOptions) (rule : Option Rule) (closing : Bool) (ahead : Text) :
    Stride :=
  match ahead with
  | [] => plain 0
  | first :: _ =>
      if first = Byte.greaterThan then
        ⟨1, .code, some (.tag (if closing then .closing else .opening) "")⟩
      else if !TagName.isStart first then plain 0
      else if closing then closingTag options ahead
      else
        match rule with
        | some rule => ⟨typeArgumentsLength 1 0 ahead, .code, some (.typeBrackets rule)⟩
        | none => openingTag options ahead

/-- What a bracket begins, from the byte after it. -/
def angleBracket (options : ScanOptions) (rule : Option Rule) (ahead : Text) : Stride :=
  match ahead with
  | [] => plain 0
  | b :: rest =>
      if followsOperator b then plain 0
      else if b = Byte.slash then (tagBody options rule true rest).behind 1
      else tagBody options rule false ahead

/-- What a step does in `mode`, given the byte just passed, the rule for a bracket
here and the text ahead. -/
def read (options : ScanOptions) (mode : Mode) (previous : Option UInt8) (rule : Option Rule)
    (ahead : Text) : Stride :=
  match ahead with
  | [] => ⟨0, mode, none⟩
  | b :: rest =>
      if b = Byte.lineFeed then ⟨1, mode.afterLine, none⟩
      else
        match mode.commentOpened? options ahead with
        | some comment => ⟨2, comment, none⟩
        | none =>
            match mode with
            | .lineComment _ => ⟨distance (· == Byte.lineFeed) ahead, mode, none⟩
            | .blockComment host =>
                if b = Byte.asterisk && rest.head? == some Byte.slash then ⟨2, host.mode, none⟩
                else
                  ⟨distance (fun b => b == Byte.asterisk || b == Byte.lineFeed) rest + 1, mode,
                    none⟩
            | .quoted quote => ⟨1, Lexer.quotedNext quote previous b, none⟩
            | .template depth =>
                if b = Byte.dollar && rest.head? == some Byte.openBrace then
                  ⟨2, .template (depth + 1), none⟩
                else ⟨1, Lexer.templateNext depth b, none⟩
            | .code =>
                if b = Byte.lessThan then (angleBracket options rule rest).behind 1
                else ⟨1, Lexer.codeNext b, none⟩

/-- Make a stride from a cursor. What it finds begins at `site`, which is behind the
cursor where part of a tag has been passed already. -/
def land (s : Stride) (site : Position) (c : Cursor) : Cursor × Option Lexeme :=
  let passed := c.advance s.length
  (passed, s.found.map (·.lexeme site passed.position.offset))

theorem land_behind (count : Nat) (s : Stride) (site : Position) (c : Cursor) :
    (s.behind count).land site c = s.land site (c.advance count) := by
  simp only [land, behind, Cursor.advance_add]

theorem land_plain_zero (site : Position) (c : Cursor) : (plain 0).land site c = (c, none) := rfl

/-! ## The parts of a tag -/

theorem closingTag_eq_land (options : ScanOptions) (site : Position) (c : Cursor) :
    Lexer.closingTag options site c = (closingTag options c.after).land site c := by
  simp only [Lexer.closingTag, closingTag]
  split
  · rfl
  · simp only [land, Cursor.advance_add, Cursor.advance_after]
    rfl

/-- Past a nonempty name, the byte just passed is the last byte of the name. -/
theorem advance_bytes_head? {limit : Nat} {c : Cursor}
    (named : TagName.bytes limit c.after ≠ []) :
    (c.advance (TagName.bytes limit c.after).length).before.head? =
      (TagName.bytes limit c.after).getLast? := by
  have front : c.after.take (TagName.bytes limit c.after).length = TagName.bytes limit c.after :=
    (List.prefix_iff_eq_take.mp (TagName.bytes_prefix limit c.after)).symm
  rw [Cursor.advance_eq, front, List.head?_append, List.head?_reverse,
    List.getLast?_eq_some_getLast named, Option.some_or]

theorem openingTag_eq_land (options : ScanOptions) (site : Position) (c : Cursor) :
    Lexer.openingTag options site c = (openingTag options c.after).land site c := by
  simp only [Lexer.openingTag, openingTag]
  split
  · rfl
  · rename_i named
    rw [List.isEmpty_iff] at named
    simp only [land, Cursor.advance_add, Cursor.advance_after, advance_bytes_head? named]
    rfl

theorem tagBody_eq_land (options : ScanOptions) (site : Position) (before : List UInt8)
    (closing : Bool) (c : Cursor) :
    Lexer.tagBody options site before closing c =
      (tagBody options (classify before) closing c.after).land site c := by
  obtain ⟨passed, after, position⟩ := c
  cases after with
  | nil => rfl
  | cons first rest =>
      simp only [Lexer.tagBody, tagBody]
      split
      · rfl
      · split
        · rfl
        · split
          · exact closingTag_eq_land options site _
          · cases classify before with
            | none => exact openingTag_eq_land options site _
            | some rule => rfl

theorem angleBracket_eq_land (options : ScanOptions) {c : Cursor} {b : UInt8} {rest : Text}
    (ahead : c.after = b :: rest) :
    Lexer.angleBracket options c =
      ((angleBracket options (classify c.before) rest).behind 1).land c.position c := by
  have bracketed : c.next.after = rest := by rw [Cursor.next_after, ahead, List.tail_cons]
  rw [land_behind, Cursor.advance_one]
  simp only [Lexer.angleBracket, angleBracket, bracketed]
  cases rest with
  | nil => rw [land_plain_zero]
  | cons next rest =>
      simp only
      split
      · rw [land_plain_zero]
      · split
        · rw [tagBody_eq_land, land_behind, Cursor.advance_one, Cursor.next_after, bracketed,
            List.tail_cons]
        · rw [tagBody_eq_land, bracketed]

/-! Tags leave the lexer in code. -/

theorem tagBody_mode (options : ScanOptions) (rule : Option Rule) (closing : Bool)
    (ahead : Text) : (tagBody options rule closing ahead).mode = .code := by
  unfold tagBody closingTag openingTag
  cases ahead with
  | nil => rfl
  | cons first rest =>
      simp only
      split
      · rfl
      · split
        · rfl
        · split
          · split <;> rfl
          · cases rule with
            | none => simp only; split <;> rfl
            | some rule => rfl

theorem angleBracket_mode (options : ScanOptions) (rule : Option Rule) (ahead : Text) :
    (angleBracket options rule ahead).mode = .code := by
  unfold angleBracket
  cases ahead with
  | nil => rfl
  | cons b rest =>
      simp only
      split
      · rfl
      · split
        · exact tagBody_mode ..
        · exact tagBody_mode ..

end Stride

/-! ## The whole step -/

/-- Which comment opens, and on what bytes. -/
theorem Mode.commentOpened?_eq_some {options : ScanOptions} {mode comment : Mode} {ahead : Text}
    (opened : mode.commentOpened? options ahead = some comment) :
    ∃ host rest, mode.commentHost? options = some host ∧
      (ahead = Byte.slash :: Byte.slash :: rest ∧ comment = .lineComment host ∨
        ahead = Byte.slash :: Byte.asterisk :: rest ∧ comment = .blockComment host) := by
  unfold Mode.commentOpened? at opened
  split at opened
  · rename_i first second rest
    split at opened
    · rename_i isSlash
      subst isSlash
      split at opened
      · rename_i isSlash
        obtain ⟨host, hosted, rfl⟩ := Option.map_eq_some_iff.mp opened
        exact ⟨host, rest, hosted, .inl ⟨by rw [isSlash], rfl⟩⟩
      · split at opened
        · rename_i isAsterisk
          obtain ⟨host, hosted, rfl⟩ := Option.map_eq_some_iff.mp opened
          exact ⟨host, rest, hosted, .inr ⟨by rw [isAsterisk], rfl⟩⟩
        · contradiction
    · contradiction
  · contradiction

theorem Mode.commentOpened?_of_hostless {options : ScanOptions} {mode : Mode}
    (hostless : mode.commentHost? options = none) (ahead : Text) :
    mode.commentOpened? options ahead = none := by
  cases opened : mode.commentOpened? options ahead with
  | none => rfl
  | some comment =>
      obtain ⟨host, _, hosted, _⟩ := commentOpened?_eq_some opened
      cases hostless.symm.trans hosted

theorem Mode.commentOpened?_of_ne_slash {options : ScanOptions} {b : UInt8}
    (notSlash : b ≠ Byte.slash) (mode : Mode) (rest : Text) :
    mode.commentOpened? options (b :: rest) = none := by
  cases rest with
  | nil => rfl
  | cons second rest => exact if_neg notSlash

/-- The test for a two-byte delimiter. -/
theorem and_head?_eq_some {b first second : UInt8} {rest : Text} :
    (b = first && rest.head? == some second) = true ↔
      b = first ∧ ∃ tail, rest = second :: tail := by
  rw [Bool.and_eq_true, decide_eq_true_iff, beq_iff_eq, List.head?_eq_some_iff]

/-- None of the bytes before the one sought is of the kind sought. -/
theorem not_mem_take_distance {sought : UInt8 → Bool} {b : UInt8} (isSought : sought b = true)
    (text : Text) : b ∉ text.take (distance sought text) := by
  intro among
  obtain ⟨i, inside, rfl⟩ := List.mem_take_iff_getElem.mp among
  have early : i < text.findIdx sought := (Nat.lt_min.mp inside).1
  exact Bool.false_ne_true ((List.not_of_lt_findIdx early).symm.trans isSought)

/-- The two-byte delimiters that are passed at once. -/
def delimiterPairs : List (UInt8 × UInt8) :=
  [(Byte.slash, Byte.slash), (Byte.slash, Byte.asterisk), (Byte.asterisk, Byte.slash),
    (Byte.dollar, Byte.openBrace)]

theorem skipPair_delimiter {first second : UInt8} (delimiter : (first, second) ∈ delimiterPairs)
    (before : List UInt8) (rest : Text) (position : Position) :
    Cursor.skipPair ⟨before, first :: second :: rest, position⟩ =
      Cursor.advance 2 ⟨before, first :: second :: rest, position⟩ := by
  have plain : delimiterPairs.all fun pair => Byte.lineFeed ∉ [pair.1, pair.2] ∧
      [pair.1, pair.2].all (!Byte.isContinuation ·) := by decide
  obtain ⟨oneLine, characters⟩ := of_decide_eq_true (List.all_eq_true.mp plain _ delimiter)
  exact Cursor.skipPair_eq_advance rfl oneLine characters

namespace Lexer

/-- The stride that the lexer makes next. -/
def stride (options : ScanOptions) (l : Lexer) : Stride :=
  Stride.read options l.mode l.cursor.before.head? (classify l.cursor.before) l.cursor.after

/-- A step is its stride, made from the cursor. -/
theorem step_eq_stride (options : ScanOptions) (l : Lexer) :
    l.step options =
      (⟨l.cursor.advance (l.stride options).length, (l.stride options).mode⟩,
        ((l.stride options).land l.cursor.position l.cursor).2) := by
  obtain ⟨⟨before, after, position⟩, mode⟩ := l
  cases after with
  | nil => rfl
  | cons b rest =>
      by_cases lineEnds : b = Byte.lineFeed
      · simp only [step, stride, Stride.read, if_pos lineEnds]
        rfl
      · simp only [step, stride, Stride.read, if_neg lineEnds]
        cases opened : mode.commentOpened? options (b :: rest) with
        | some comment =>
            obtain ⟨_, tail, _, ⟨ahead, _⟩ | ⟨ahead, _⟩⟩ := Mode.commentOpened?_eq_some opened
            all_goals
              obtain ⟨rfl, rfl⟩ := List.cons.inj ahead
              rw [skipPair_delimiter (by decide)]
              rfl
        | none =>
            cases mode with
            | lineComment host =>
                have oneLine : Byte.lineFeed ∉ (b :: rest).take
                    (distance (· == Byte.lineFeed) (b :: rest)) :=
                  not_mem_take_distance rfl (b :: rest)
                simp only [Cursor.jump_eq_advance (c := ⟨before, b :: rest, position⟩) oneLine]
                rfl
            | blockComment host =>
                simp only
                split
                · rename_i ends
                  obtain ⟨rfl, tail, rfl⟩ := and_head?_eq_some.mp ends
                  rw [skipPair_delimiter (by decide)]
                  rfl
                · have restOfLine : Byte.lineFeed ∉ rest.take
                      (distance (fun b => b == Byte.asterisk || b == Byte.lineFeed) rest) :=
                    not_mem_take_distance rfl rest
                  have oneLine : Byte.lineFeed ∉ (b :: rest).take
                      (distance (fun b => b == Byte.asterisk || b == Byte.lineFeed) rest + 1) :=
                    List.not_mem_cons_of_ne_of_not_mem (Ne.symm lineEnds) restOfLine
                  rw [Cursor.jump_eq_advance (c := ⟨before, b :: rest, position⟩) oneLine]
                  rfl
            | quoted quote => rfl
            | template depth =>
                simp only
                split
                · rename_i opens
                  obtain ⟨rfl, tail, rfl⟩ := and_head?_eq_some.mp opens
                  rw [skipPair_delimiter (by decide)]
                  rfl
                · rfl
            | code =>
                simp only
                split
                · have ahead : (⟨before, b :: rest, position⟩ : Cursor).after = b :: rest := rfl
                  rw [Stride.angleBracket_eq_land options ahead]
                  simp only [Stride.behind, Stride.angleBracket_mode]
                  rfl
                · rfl

/-- What a step finds begins where the step does and ends where it ends. -/
theorem step_found (options : ScanOptions) (l : Lexer) :
    (l.step options).2 = (l.stride options).found.map (·.lexeme l.cursor.position
      (l.cursor.position.offset +
        (l.cursor.after.take (l.stride options).length).length)) := by
  rw [step_eq_stride, Stride.land, Cursor.advance_eq]
  simp only [Position.past_offset]

end Lexer
end TagCheck
