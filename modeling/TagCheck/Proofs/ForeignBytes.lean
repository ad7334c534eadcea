/-
# Bytes beyond ASCII

A scan takes its text byte by byte, and every byte that means something to it is ASCII. So it
does not tell the bytes beyond ASCII apart: what it finds is found in any text that has other
such bytes in their places, whether or not they make up characters.

All bytes beyond ASCII are blurred into one (`Byte.blurred`), and each search and each rule is
shown to come to the same in the blurred text. It then comes to the same in any two texts that
blur into one. A test that only ASCII bytes pass is blind to the change (`AsciiOnly`), and there
are no other tests. So two lexers that stand at one offset, each in its text, take the same
strides (`Lexer.Abreast.stride_eq`). The column alone looks further, because a byte that
continues a character does not advance it (`SamePlace`).
-/

import TagCheck.Proofs.Correspondence
import TagCheck.Proofs.LineEndings
import TagCheck.Proofs.Searches

namespace TagCheck

/-! ## Tests -/

namespace Byte

/-- The same byte if it is ASCII; the others all become one. -/
def blurred (b : UInt8) : UInt8 := if b < 0x80 then b else 0xFF

/-- The same byte, or two beyond ASCII. -/
def Interchangeable (b c : UInt8) : Prop := b = c ∨ 0x80 ≤ b ∧ 0x80 ≤ c

theorem Interchangeable.blurred_eq {b c : UInt8} (bytes : Interchangeable b c) :
    blurred b = blurred c := by
  rcases bytes with rfl | ⟨foreign, foreign'⟩
  · rfl
  · rw [blurred, blurred, if_neg (UInt8.not_lt.mpr foreign), if_neg (UInt8.not_lt.mpr foreign')]

/-- Texts that differ in bytes beyond ASCII alone blur into one. -/
theorem Interchangeable.map_blurred_eq {t u : Text} (bytes : List.Forall₂ Interchangeable t u) :
    t.map blurred = u.map blurred := by
  induction bytes with
  | nil => rfl
  | cons same _ ih => exact congrArg₂ List.cons same.blurred_eq ih

end Byte

/-- A test that ASCII bytes alone pass. -/
def AsciiOnly (p : UInt8 → Bool) : Prop := ∀ b, p b = true → b < 0x80

namespace AsciiOnly

variable {p q : UInt8 → Bool}

theorem blurred (only : AsciiOnly p) (b : UInt8) : p (Byte.blurred b) = p b := by
  rw [Byte.blurred]
  split
  · rfl
  · rename_i foreign
    rw [Bool.eq_false_iff.mpr fun passes => foreign (only b passes)]
    exact Bool.eq_false_iff.mpr fun passes => absurd (only 0xFF passes) (by decide)

theorem comp_blurred (only : AsciiOnly p) : p ∘ Byte.blurred = p := funext only.blurred

/-- What passes the test is left as it is. -/
theorem blurred_eq (only : AsciiOnly p) {b : UInt8} (passes : p b = true) : Byte.blurred b = b :=
  if_pos (only b passes)

theorem map_blurred (only : AsciiOnly p) {bytes : List UInt8} (pass : ∀ b ∈ bytes, p b = true) :
    bytes.map Byte.blurred = bytes := by
  rw [← List.map_id bytes, List.map_map]
  apply List.map_congr_left
  intro b among
  exact only.blurred_eq (pass b among)

theorem or (first : AsciiOnly p) (second : AsciiOnly q) : AsciiOnly fun b => p b || q b := by
  intro b passes
  exact ((Bool.or_eq_true ..).mp passes).elim (first b) (second b)

theorem beq {c : UInt8} (ascii : c < 0x80) : AsciiOnly (· == c) := by
  intro b same
  rw [beq_iff_eq.mp same]
  exact ascii

theorem upTo {last : UInt8} (ascii : last < 0x80) (first : UInt8) :
    AsciiOnly fun b => first ≤ b && b ≤ last := by
  intro b within
  rw [Bool.and_eq_true, decide_eq_true_iff, decide_eq_true_iff] at within
  exact UInt8.lt_of_le_of_lt within.2 ascii

theorem letter : AsciiOnly Byte.isLetter := (upTo (by decide) _).or (upTo (by decide) _)

theorem digit : AsciiOnly Byte.isDigit := upTo (by decide) _

theorem blank : AsciiOnly Byte.isBlank := (beq (by decide)).or (beq (by decide))

theorem whitespace : AsciiOnly Byte.isWhitespace :=
  (blank.or (beq (by decide))).or (beq (by decide))

theorem word : AsciiOnly Byte.isWord := (letter.or digit).or (beq (by decide))

theorem quote : AsciiOnly Byte.isQuote := (beq (by decide)).or (beq (by decide))

theorem nameStart : AsciiOnly TagName.isStart := letter.or (beq (by decide))

theorem namePart : AsciiOnly TagName.isPart :=
  ((((letter.or digit).or (beq (by decide))).or (beq (by decide))).or (beq (by decide))).or
    (beq (by decide))

theorem operator : AsciiOnly followsOperator :=
  (((beq (by decide)).or (beq (by decide))).or (beq (by decide))).or (beq (by decide))

theorem punctuation : AsciiOnly Rule.typePunctuationBytes.contains := by
  intro b among
  have ascii : ∀ c ∈ Rule.typePunctuationBytes, c < 0x80 := by decide +kernel
  exact ascii b (List.contains_iff_mem.mp among)

end AsciiOnly

/-! ## Searches -/

section Searches

variable {p : UInt8 → Bool} {c : UInt8}

theorem blurred_eq_iff (ascii : c < 0x80) (b : UInt8) : Byte.blurred b = c ↔ b = c := by
  rw [← beq_iff_eq, ← beq_iff_eq (a := b), AsciiOnly.blurred (AsciiOnly.beq ascii)]

theorem map_blurred_beq (ascii : c < 0x80) (b : Option UInt8) :
    (b.map Byte.blurred == some c) = (b == some c) := by
  cases b with
  | none => rfl
  | some b => exact AsciiOnly.blurred (AsciiOnly.beq ascii) b

theorem distance_blurred (only : AsciiOnly p) (text : Text) :
    distance p (text.map Byte.blurred) = distance p text := by
  rw [distance, List.findIdx_map, only.comp_blurred, distance]

theorem map_blurred_bytes (limit : Nat) (text : Text) :
    (TagName.bytes limit text).map Byte.blurred = TagName.bytes limit text :=
  AsciiOnly.namePart.map_blurred fun _ among => List.mem_takeWhile_imp (List.mem_of_mem_take among)

theorem bytes_blurred (limit : Nat) (text : Text) :
    TagName.bytes limit (text.map Byte.blurred) = TagName.bytes limit text := by
  rw [TagName.bytes, List.takeWhile_map, AsciiOnly.namePart.comp_blurred,
    AsciiOnly.namePart.map_blurred fun b among => List.mem_takeWhile_imp among, TagName.bytes]

theorem typeArgumentsLength_blurred (depth passed : Nat) (text : Text) :
    typeArgumentsLength depth passed (text.map Byte.blurred) =
      typeArgumentsLength depth passed text := by
  induction text generalizing depth passed with
  | nil => rfl
  | cons b text ih =>
      have same : bracketsOpen depth (Byte.blurred b) = bracketsOpen depth b := by
        simp (disch := decide) only [bracketsOpen, blurred_eq_iff]
      rw [List.map_cons, typeArgumentsLength_cons, typeArgumentsLength_cons, same, ih]

theorem attributes_blurred (previous : Option UInt8) {quote : Option UInt8}
    (quotes : ∀ q ∈ quote, Byte.isQuote q) (depth passed : Nat) (text : Text) :
    attributes (previous.map Byte.blurred) quote depth passed (text.map Byte.blurred) =
      attributes previous quote depth passed text := by
  induction text generalizing previous quote depth passed with
  | nil => rfl
  | cons b text ih =>
      have ends : tagEnd? depth (Byte.blurred b) (text.map Byte.blurred).head? quote =
          tagEnd? depth b text.head? quote := by
        rw [List.head?_map]
        cases quote with
        | some q => rfl
        | none =>
            simp (disch := decide) only [tagEnd?, blurred_eq_iff, map_blurred_beq]
      have quoted : quoteAfter (previous.map Byte.blurred) (Byte.blurred b) quote =
          quoteAfter previous b quote := by
        cases quote with
        | some q =>
            -- Blurred bytes could close a value only if its quote were beyond ASCII itself.
            have ascii : q < 0x80 := AsciiOnly.quote q (quotes q rfl)
            simp (disch := decide) only [quoteAfter, blurred_eq_iff ascii, bne, map_blurred_beq]
        | none =>
            rw [quoteAfter, quoteAfter, AsciiOnly.quote.blurred]
            split
            · rename_i opens
              rw [AsciiOnly.quote.blurred_eq opens]
            · rfl
      have braced : bracesAfter depth (Byte.blurred b) quote = bracesAfter depth b quote := by
        cases quote with
        | some q => rfl
        | none =>
            simp (disch := decide) only [bracesAfter, blurred_eq_iff]
      rw [List.map_cons, attributes_cons, attributes_cons, ends, quoted, braced]
      cases tagEnd? depth b text.head? quote with
      | some ending => rfl
      | none => exact ih (some b) (quoteAfter_quotes b quotes) _ _

end Searches

/-! ## Rules -/

namespace Lookbehind

/-- The text before a bracket, blurred. -/
def blurred (l : Lookbehind) : Lookbehind :=
  ⟨l.gap.map Byte.blurred, l.word, l.beyond.map Byte.blurred⟩

theorem ofBefore_blurred (before : List UInt8) :
    ofBefore (before.map Byte.blurred) = (ofBefore before).blurred := by
  have word (trimmed : List UInt8) : (trimmed.takeWhile Byte.isWord).map Byte.blurred =
      trimmed.takeWhile Byte.isWord :=
    AsciiOnly.word.map_blurred fun b among => List.mem_takeWhile_imp among
  simp only [ofBefore, blurred, List.takeWhile_map, List.dropWhile_map,
    AsciiOnly.whitespace.comp_blurred, AsciiOnly.word.comp_blurred, word]

variable (l : Lookbehind)

theorem beforeWord_blurred : l.blurred.beforeWord = l.beforeWord.map Byte.blurred := by
  simp only [beforeWord, anchor, blurred, List.dropWhile_map, AsciiOnly.blank.comp_blurred,
    List.head?_map]

/-- No rule tells what is beyond ASCII apart. -/
theorem applies_blurred (rule : Rule) : rule.applies l.blurred = rule.applies l := by
  have gap : l.blurred.wordAbuts = l.wordAbuts := by
    simp only [wordAbuts, blurred, List.isEmpty_map]
  cases rule with
  | annotated =>
      simp only [Rule.applies, previous, blurred, List.head?_map]
      cases l.word.getLast? with
      | some b => rfl
      | none =>
          simp (disch := decide) only [Option.none_or, map_blurred_beq]
  | typeKeyword => rfl
  | abuttingGeneric =>
      have dotted : l.blurred.wordFollowsDot = l.wordFollowsDot := by
        simp (disch := decide) only [wordFollowsDot, blurred, List.head?_map, map_blurred_beq]
      simp only [Rule.applies, gap, dotted]
      rfl
  | typePunctuation =>
      simp only [Rule.applies, beforeWord_blurred, Option.any_map, AsciiOnly.punctuation.blurred]
  | intersection =>
      have second : l.blurred.anchorFollowsAmpersand = l.anchorFollowsAmpersand := by
        simp (disch := decide) only [anchorFollowsAmpersand, anchor, blurred, List.dropWhile_map,
          AsciiOnly.blank.comp_blurred, ← List.map_tail, List.head?_map, map_blurred_beq]
      simp (disch := decide) only [Rule.applies, beforeWord_blurred, second, map_blurred_beq]

end Lookbehind

theorem classify_blurred (before : List UInt8) :
    classify (before.map Byte.blurred) = classify before := by
  rw [classify, Lookbehind.ofBefore_blurred, classify]
  congr 1
  funext rule
  exact Lookbehind.applies_blurred _ rule

/-! ## Strides -/

namespace Stride

variable (options : ScanOptions)

theorem closingTag_blurred (ahead : Text) :
    closingTag options (ahead.map Byte.blurred) = closingTag options ahead := by
  have bracketEnd := distance_blurred (AsciiOnly.beq (c := Byte.greaterThan) (by decide))
  simp only [closingTag, bytes_blurred, ← List.map_drop, bracketEnd]

theorem openingTag_blurred (ahead : Text) :
    openingTag options (ahead.map Byte.blurred) = openingTag options ahead := by
  have quotes : ∀ q ∈ (none : Option UInt8), Byte.isQuote q := nofun
  have last : ((TagName.bytes options.maxNameLength ahead).getLast?).map Byte.blurred =
      (TagName.bytes options.maxNameLength ahead).getLast? := by
    rw [← List.getLast?_map, map_blurred_bytes]
  have tail := attributes_blurred (TagName.bytes options.maxNameLength ahead).getLast? quotes 0 0
    (ahead.drop (TagName.bytes options.maxNameLength ahead).length)
  rw [last] at tail
  simp only [openingTag, bytes_blurred, ← List.map_drop, tail]

theorem tagBody_blurred (rule : Option Rule) (closing : Bool) (ahead : Text) :
    tagBody options rule closing (ahead.map Byte.blurred) =
      tagBody options rule closing ahead := by
  have closed := closingTag_blurred options ahead
  have opened := openingTag_blurred options ahead
  have bracketed := typeArgumentsLength_blurred 1 0 ahead
  cases ahead with
  | nil => rfl
  | cons first rest =>
      rw [List.map_cons] at closed opened bracketed ⊢
      simp (disch := decide) only [tagBody, blurred_eq_iff, AsciiOnly.nameStart.blurred, closed,
        opened, bracketed]

theorem angleBracket_blurred (rule : Option Rule) (ahead : Text) :
    angleBracket options rule (ahead.map Byte.blurred) = angleBracket options rule ahead := by
  have body := tagBody_blurred options rule false ahead
  cases ahead with
  | nil => rfl
  | cons b rest =>
      rw [List.map_cons] at body ⊢
      simp (disch := decide) only [angleBracket, blurred_eq_iff, AsciiOnly.operator.blurred, body,
        tagBody_blurred]

theorem commentOpened?_blurred (mode : Mode) (ahead : Text) :
    mode.commentOpened? options (ahead.map Byte.blurred) = mode.commentOpened? options ahead := by
  match ahead with
  | [] => rfl
  | [_] => rfl
  | first :: second :: rest =>
      simp (disch := decide) only [Mode.commentOpened?, List.map_cons, blurred_eq_iff]

/-- A step does not tell bytes beyond ASCII apart, except by a quote that were one of them; no
string is delimited by such a quote. -/
theorem read_blurred {mode : Mode} (delimited : mode.Delimited) (previous : Option UInt8)
    (rule : Option Rule) (ahead : Text) :
    read options mode (previous.map Byte.blurred) rule (ahead.map Byte.blurred) =
      read options mode previous rule ahead := by
  have opener := commentOpened?_blurred options mode ahead
  cases ahead with
  | nil => rfl
  | cons b rest =>
      have bracketed := angleBracket_blurred options rule rest
      have lineEnd := distance_blurred (AsciiOnly.beq (c := Byte.lineFeed) (by decide)) (b :: rest)
      have commentEnd := distance_blurred ((AsciiOnly.beq (c := Byte.asterisk) (by decide)).or
        (AsciiOnly.beq (c := Byte.lineFeed) (by decide))) rest
      rw [List.map_cons] at opener lineEnd ⊢
      simp (disch := decide) only [read, opener, blurred_eq_iff]
      split
      · rfl
      · cases mode.commentOpened? options (b :: rest) with
        | some comment => rfl
        | none =>
            cases mode with
            | lineComment host => simp only [lineEnd]
            | blockComment host =>
                simp (disch := decide) only [commentEnd, List.head?_map, map_blurred_beq]
            | quoted q =>
                have ascii : q < 0x80 := AsciiOnly.quote q delimited
                simp (disch := decide) only [Lexer.quotedNext, blurred_eq_iff ascii, bne,
                  map_blurred_beq]
            | template depth =>
                simp (disch := decide) only [Lexer.templateNext, blurred_eq_iff, List.head?_map,
                  map_blurred_beq]
            | code =>
                have opens : Lexer.codeNext (Byte.blurred b) = Lexer.codeNext b := by
                  rw [Lexer.codeNext, Lexer.codeNext, AsciiOnly.quote.blurred]
                  split
                  · rename_i quotes
                    rw [AsciiOnly.quote.blurred_eq quotes]
                  · simp (disch := decide) only [blurred_eq_iff]
                simp (disch := decide) only [bracketed, opens]

end Stride

/-! ## Places -/

/-- How many bytes before an offset continue a character of the line they are on. -/
def continuationsBefore (text : Text) (offset : Nat) : Nat :=
  (lastLine (text.take offset)).countP Byte.isContinuation

/-- One offset in two texts, on one line. Only the bytes that continue a character, which no
column counts, can make the columns differ. -/
structure SamePlace (t u : Text) (p q : Position) : Prop where
  offset : p.offset = q.offset
  line : p.line = q.line
  column : p.column + continuationsBefore t p.offset = q.column + continuationsBefore u q.offset

theorem count_lineFeed_blurred (text : Text) :
    (text.map Byte.blurred).count Byte.lineFeed = text.count Byte.lineFeed := by
  have counted := List.countP_map (p := (· == Byte.lineFeed)) (f := Byte.blurred) (l := text)
  rwa [AsciiOnly.comp_blurred (AsciiOnly.beq (by decide))] at counted

theorem lastLine_blurred (text : Text) :
    lastLine (text.map Byte.blurred) = (lastLine text).map Byte.blurred := by
  have ends : (fun b => b != Byte.lineFeed) ∘ Byte.blurred = fun b => b != Byte.lineFeed := by
    funext b
    exact congrArg (! ·) (AsciiOnly.blurred (AsciiOnly.beq (by decide)) b)
  rw [lastLine, lastLine, List.rtakeWhile, List.rtakeWhile, ← List.map_reverse,
    List.takeWhile_map, ends, List.map_reverse]

namespace Position.Exact

variable {t u : Text} {p q : Position}

/-- The column and the bytes that it leaves out make up the line so far. -/
theorem column_add (exact : p.Exact t) :
    p.column + continuationsBefore t p.offset = 1 + (lastLine (t.take p.offset)).length := by
  have parts := List.length_eq_countP_add_countP Byte.isContinuation
    (l := lastLine (t.take p.offset))
  simp only [Bool.not_eq_true, Bool.decide_eq_false] at parts
  rw [exact.column, continuationsBefore, parts]
  omega

theorem samePlace (exact : p.Exact t) (exact' : q.Exact u)
    (texts : t.map Byte.blurred = u.map Byte.blurred) (offset : p.offset = q.offset) :
    SamePlace t u p q := by
  have before : (t.take p.offset).map Byte.blurred = (u.take q.offset).map Byte.blurred := by
    rw [List.map_take, texts, offset, List.map_take]
  refine ⟨offset, ?_, ?_⟩
  · rw [exact.line, exact'.line, ← count_lineFeed_blurred, before, count_lineFeed_blurred]
  · have soFar : (lastLine (t.take p.offset)).length = (lastLine (u.take q.offset)).length := by
      rw [← List.length_map Byte.blurred, ← lastLine_blurred, before, lastLine_blurred,
        List.length_map]
    rw [exact.column_add, exact'.column_add, soFar]

end Position.Exact

/-! ## Lexers -/

/-- Lexers that stand at one offset, each in its text, in one mode, where the texts blur into
one. -/
structure Lexer.Abreast (t u : Text) (l m : Lexer) : Prop where
  texts : t.map Byte.blurred = u.map Byte.blurred
  stands : l.cursor.StandsIn t
  stands' : m.cursor.StandsIn u
  offset : l.cursor.position.offset = m.cursor.position.offset
  mode : l.mode = m.mode
  delimited : l.mode.Delimited

namespace Lexer

variable {t u : Text} {l m : Lexer}

namespace Abreast

theorem after_blurred (abreast : Abreast t u l m) :
    l.cursor.after.map Byte.blurred = m.cursor.after.map Byte.blurred := by
  rw [abreast.stands.after_eq, abreast.stands'.after_eq, List.map_drop, abreast.texts,
    abreast.offset, List.map_drop]

theorem before_blurred (abreast : Abreast t u l m) :
    l.cursor.before.map Byte.blurred = m.cursor.before.map Byte.blurred := by
  apply List.reverse_injective
  rw [← List.map_reverse, ← List.map_reverse, ← abreast.stands.before_eq,
    ← abreast.stands'.before_eq, List.map_take, abreast.texts, abreast.offset, List.map_take]

theorem stride_eq (abreast : Abreast t u l m) (options : ScanOptions) :
    l.stride options = m.stride options := by
  have blurred (k : Lexer) (delimited : k.mode.Delimited) : k.stride options =
      Stride.read options k.mode (k.cursor.before.map Byte.blurred).head?
        (classify (k.cursor.before.map Byte.blurred)) (k.cursor.after.map Byte.blurred) := by
    rw [stride, List.head?_map, classify_blurred, Stride.read_blurred options delimited]
  rw [blurred l abreast.delimited, blurred m (abreast.mode ▸ abreast.delimited),
    abreast.before_blurred, abreast.after_blurred, abreast.mode]

theorem samePlace (abreast : Abreast t u l m) :
    SamePlace t u l.cursor.position m.cursor.position :=
  abreast.stands.exact.samePlace abreast.stands'.exact abreast.texts abreast.offset

theorem length_after (abreast : Abreast t u l m) :
    l.cursor.after.length = m.cursor.after.length := by
  rw [← List.length_map Byte.blurred, abreast.after_blurred, List.length_map]

theorem advance (abreast : Abreast t u l m) (count : Nat) {mode : Mode}
    (delimited : mode.Delimited) :
    Abreast t u ⟨l.cursor.advance count, mode⟩ ⟨m.cursor.advance count, mode⟩ := by
  refine ⟨abreast.texts, abreast.stands.advance count, abreast.stands'.advance count, ?_, rfl,
    delimited⟩
  simp only [Cursor.advance_eq, Position.past_offset, List.length_take, abreast.offset,
    abreast.length_after]

/-- A step of lexers abreast finds the same on both sides and leaves them abreast. -/
theorem step (abreast : Abreast t u l m) (options : ScanOptions) :
    Abreast t u (l.step options).1 (m.step options).1 ∧
      Option.Rel (Lexeme.Alike (SamePlace t u)) (l.step options).2 (m.step options).2 := by
  have delimited : (l.stride options).mode.Delimited := Stride.read_delimited abreast.delimited _
  rw [step_eq_stride, step_eq_stride, ← abreast.stride_eq options]
  refine ⟨abreast.advance _ delimited, ?_⟩
  simp only [Stride.land, Cursor.advance_eq, Position.past_offset, List.length_take,
    abreast.length_after]
  cases (l.stride options).found with
  | none => exact .none
  | some found =>
      cases found with
      | tag form name => exact .some (.tag form name _ abreast.samePlace)
      | typeBrackets rule => exact .some .typeBrackets

theorem lexemesAhead (abreast : Abreast t u l m) (options : ScanOptions) :
    List.Forall₂ (Lexeme.Alike (SamePlace t u)) (l.lexemesAhead options)
      (m.lexemesAhead options) := by
  apply lexemesAhead_forall₂ (Abreast t u) _ _ abreast
  · intro l m abreast
    rw [← List.length_eq_zero_iff, ← List.length_eq_zero_iff, abreast.length_after]
  · intro l m abreast _
    exact abreast.step options

end Abreast
end Lexer

/-! ## What is reported -/

namespace Defect.Alike

variable {place : Position → Position → Prop} {d e : Defect}

/-- Labels show offsets only. -/
theorem labels_eq (offsets : ∀ p q, place p q → p.offset = q.offset) (alike : d.Alike place e) :
    d.labels = e.labels := by
  cases alike with
  | unmatchedClose name length sites => simp only [labels, offsets _ _ sites]
  | mismatch expected found length openings sites =>
      simp only [labels, openingSpan, offsets _ _ openings, offsets _ _ sites]
  | unclosed name others sites => simp only [labels, openingSpan, offsets _ _ sites]
  | tooDeep limit sites => simp only [labels, offsets _ _ sites]

end Defect.Alike

/-- Other bytes beyond ASCII in their places change nothing of what a scan finds. It counts as
many elements and meets the same defect, if any, with the same names, counts and spans, at the
same offsets and lines. The columns differ by the continuation bytes on the line alone. -/
theorem scan_of_interchangeable (options : ScanOptions) {t u : Text}
    (bytes : List.Forall₂ Byte.Interchangeable t u) :
    (scan options t).Alike (SamePlace t u) (scan options u) ∧
      (scan options t).defect.map Defect.kind = (scan options u).defect.map Defect.kind ∧
      (scan options t).defect.map Defect.labels = (scan options u).defect.map Defect.labels := by
  have abreast : Lexer.Abreast t u (.ofText t) (.ofText u) :=
    ⟨Byte.Interchangeable.map_blurred_eq bytes, ⟨rfl, rfl⟩, ⟨rfl, rfl⟩, rfl, rfl, trivial⟩
  have fresh : (Nesting.start options).Alike (SamePlace t u) (Nesting.start options) :=
    ⟨.nil, rfl, rfl, rfl⟩
  have alike : (scan options t).Alike (SamePlace t u) (scan options u) :=
    fresh.settle (abreast.lexemesAhead options)
  exact ⟨alike, alike.map_defect_eq fun _ _ => Defect.Alike.kind_eq,
    alike.map_defect_eq fun _ _ => Defect.Alike.labels_eq fun _ _ => SamePlace.offset⟩

/-- An accented letter, and two bytes that are no character, before a tag that stays open. -/
theorem scan_of_interchangeable_no_character :
    let tag : Text := "<b>".toUTF8.toList
    List.Forall₂ Byte.Interchangeable (0xC3 :: 0xA9 :: tag) (0xFF :: 0xFE :: tag) ∧
      (scan {} (0xC3 :: 0xA9 :: tag)).defect = some (.unclosed "b" ⟨2, 1, 2⟩ 0) ∧
      (scan {} (0xFF :: 0xFE :: tag)).defect = some (.unclosed "b" ⟨2, 1, 3⟩ 0) ∧
      (scan {} (0xC3 :: 0xA9 :: tag)).Alike
        (SamePlace (0xC3 :: 0xA9 :: tag) (0xFF :: 0xFE :: tag))
        (scan {} (0xFF :: 0xFE :: tag)) := by
  intro tag
  have bytes : List.Forall₂ Byte.Interchangeable (0xC3 :: 0xA9 :: tag) (0xFF :: 0xFE :: tag) :=
    .cons (.inr ⟨by decide, by decide⟩) <| .cons (.inr ⟨by decide, by decide⟩) <|
      List.forall₂_same.mpr fun b _ => .inl rfl
  exact ⟨bytes, by decide +kernel, by decide +kernel, (scan_of_interchangeable {} bytes).1⟩

end TagCheck
