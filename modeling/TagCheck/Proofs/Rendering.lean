/-
# Well-formed markup is accepted

A forest that is written out (`Forest.render`) scans without a defect, and every element
in it is counted (`scan_accepts_rendered`). The run passes the text of a node from a place where
markup can begin to one where it can begin again, with the same tags open (`Accepts`);
what stands around the node does not come into it. Elements and fragments put a tag on
either side of such a stretch (`accepts_between`).

That brackets are taken for tags at all rests on what stands before them: a tag ends
with a bracket, and text between tags is asked to be `Neutral`, so no rule of the
classifier applies (`classify_of_neutral`).
-/

import TagCheck.Proofs.Lookback
import TagCheck.Proofs.MarkupTree
import TagCheck.Proofs.OnePass

namespace TagCheck
namespace Markup

/-! ## What the classifier sees between tags -/

theorem Neutral.append {near before : List UInt8} (neutral : Neutral near)
    (behind : Neutral before) : Neutral (near ++ before) := by
  intro b nearest
  rw [List.find?_append] at nearest
  cases found : near.find? (!Byte.isWhitespace ·) with
  | some c =>
      rw [found, Option.some_or] at nearest
      exact neutral b (found.trans nearest)
  | none =>
      rw [found, Option.none_or] at nearest
      exact behind b nearest

/-- Behind a tag nothing belongs to types. -/
theorem neutral_of_bracket {text : Text} (ends : text.getLast? = some Byte.greaterThan)
    (before : List UInt8) : Neutral (text.reverse ++ before) := by
  intro b nearest
  obtain ⟨inner, rfl⟩ := List.getLast?_eq_some_iff.mp ends
  rw [List.reverse_append, List.reverse_singleton, List.singleton_append, List.cons_append,
    List.find?_cons_of_pos (by decide)] at nearest
  cases nearest
  decide

/-- No rule applies where no word stands before the bracket and no punctuation of
types. -/
theorem applies_of_plain {l : Lookbehind} (noWord : l.word = [])
    (plain : ∀ b ∈ l.beyond.head?, Byte.isBlank b = false ∧ claims b = false) (rule : Rule) :
    rule.applies l = false := by
  obtain ⟨gap, word, beyond⟩ := l
  cases noWord
  cases beyond with
  | nil => cases rule <;> rfl
  | cons b far =>
      obtain ⟨notBlank, claimsNone⟩ := plain b rfl
      have anchor : (b :: far).dropWhile Byte.isBlank = b :: far :=
        List.dropWhile_cons_of_neg (Bool.eq_false_iff.mp notBlank)
      rw [claims, Bool.or_eq_false_iff] at claimsNone
      simp only [List.contains_cons, List.contains_nil, Bool.or_eq_false_iff, Bool.or_false,
        beq_eq_false_iff_ne] at claimsNone
      cases rule with
      | annotated => simp [Rule.applies, Lookbehind.previous, claimsNone]
      | typeKeyword => rfl
      | abuttingGeneric => rfl
      | typePunctuation =>
          simp [Rule.applies, Lookbehind.beforeWord, Lookbehind.anchor, anchor,
            Rule.typePunctuationBytes, claimsNone]
      | intersection =>
          simp [Rule.applies, Lookbehind.beforeWord, Lookbehind.anchor, anchor, claimsNone]

theorem classify_of_neutral {before : List UInt8} (neutral : Neutral before) :
    classify before = none := by
  rw [classify, List.find?_eq_none]
  intro rule _
  rw [Bool.not_eq_true, Lookbehind.ofBefore_eq_ofTrimmed]
  have nearest : ∀ b ∈ (before.dropWhile Byte.isWhitespace).head?,
      Byte.isWhitespace b = false ∧ claims b = false := by
    intro b first
    have solid : before.find? (!Byte.isWhitespace ·) = some b := by
      rw [List.find?_eq_head?_dropWhile_not]
      simp only [Bool.not_not]
      exact first
    have notWhite := List.find?_some solid
    rw [Bool.not_eq_true'] at notWhite
    exact ⟨notWhite, neutral b solid⟩
  generalize before.dropWhile Byte.isWhitespace = trimmed at nearest
  -- The nearest byte is part of no word, so the word before the bracket is empty.
  cases trimmed with
  | nil => exact applies_of_plain rfl (by rintro _ ⟨⟩) rule
  | cons b far =>
      obtain ⟨notWhite, claimsNone⟩ := nearest b rfl
      have notWord : ¬ Byte.isWord b = true := by
        rw [claims, Bool.or_eq_false_iff] at claimsNone
        exact Bool.eq_false_iff.mp claimsNone.1
      apply applies_of_plain
      · rw [Lookbehind.ofTrimmed, List.takeWhile_cons_of_neg notWord, List.reverse_nil]
      · rw [Lookbehind.ofTrimmed, List.dropWhile_cons_of_neg notWord]
        rintro _ ⟨⟩
        exact ⟨isBlank_of_not_isWhitespace notWhite, claimsNone⟩

/-! ## Passing markup -/

/-- The scanner stands where markup can begin. -/
structure AtMarkup (s : Scanner) : Prop where
  inCode : s.mode = .code
  neutral : Neutral s.lexer.cursor.before

/-- The run from `s` to `t` passes `text` with `rest` behind it, counts `count` elements,
and has the same tags open before and after. -/
structure Accepts (options : ScanOptions) (text rest : Text) (count : Nat) (s t : Scanner) :
    Prop where
  entry : s.ahead = text ++ rest
  reaches : Scanner.Reaches options s t
  left : t.ahead = rest
  stands : AtMarkup t
  entries : t.nesting.stack.entries = s.nesting.stack.entries
  limit : t.nesting.stack.limit = s.nesting.stack.limit
  counted : t.nesting.tagsChecked = s.nesting.tagsChecked + count

variable {options : ScanOptions} {text rest : Text} {s t : Scanner}

theorem Accepts.append {text' : Text} {count count' : Nat} {u : Scanner}
    (first : Accepts options text (text' ++ rest) count s t)
    (second : Accepts options text' rest count' t u) :
    Accepts options (text ++ text') rest (count + count') s u where
  entry := by rw [first.entry, List.append_assoc]
  reaches := first.reaches.trans second.reaches
  left := second.left
  stands := second.stands
  entries := second.entries.trans first.entries
  limit := second.limit.trans first.limit
  counted := by rw [second.counted, first.counted, Nat.add_assoc]

/-- The text of a tag is passed in one step. -/
theorem AtMarkup.steps_of_tag {form : TagForm} {name : String} (stands : AtMarkup s)
    (isTag : IsTag options form name text) (entry : s.ahead = text ++ rest) {n : Nesting}
    (met : s.nesting.meet (.tag ⟨form, name, s.lexer.cursor.position, s.offset + text.length⟩) =
      .ok n) :
    ∃ t, Scanner.Steps options s t ∧ t.ahead = rest ∧ AtMarkup t ∧ t.nesting = n := by
  have filled : text ≠ [] := by
    rintro rfl
    cases isTag.ends
  have stride : s.lexer.stride options = ⟨text.length, .code, some (.tag form name)⟩ := by
    rw [← isTag.read s.lexer.cursor.before.head? rest, ← entry, ← stands.inCode,
      ← classify_of_neutral stands.neutral]
    rfl
  have found : s.nesting.meetFound ((some (Finding.tag form name)).map
      (·.lexeme s.lexer.cursor.position (s.offset + text.length))) = (n, none) := by
    simp only [Option.map_some, Finding.lexeme, Nesting.meetFound, met]
  obtain ⟨t, steps, inCode, left, same⟩ := Scanner.steps_of_stride entry filled stride found
  have neutral : Neutral t.lexer.cursor.before := by
    rw [Scanner.Reaches.before_eq (.single steps) entry left]
    exact neutral_of_bracket isTag.ends _
  exact ⟨t, steps, left, ⟨inCode, neutral⟩, same⟩

/-- A tag that is an element on its own. -/
theorem AtMarkup.accepts_single {name : String} (stands : AtMarkup s)
    (isTag : IsTag options .single name text) (entry : s.ahead = text ++ rest) :
    ∃ t, Accepts options text rest 1 s t := by
  obtain ⟨t, steps, left, stands, same⟩ := stands.steps_of_tag isTag entry rfl
  refine ⟨t, entry, .single steps, left, stands, ?_, ?_, ?_⟩
  all_goals
    rw [same]
    rfl

/-- Between an opening tag and a closing tag of the same name there is one more tag
open. -/
theorem AtMarkup.accepts_between {name : String} {opener inner closer : Text}
    {height count : Nat} (stands : AtMarkup s)
    (opens : IsTag options .opening name opener) (closes : IsTag options .closing name closer)
    (entry : s.ahead = opener ++ (inner ++ closer) ++ rest)
    (room : s.nesting.stack.entries.length + (height + 1) ≤ s.nesting.stack.limit)
    (inside : ∀ u, AtMarkup u → u.ahead = inner ++ (closer ++ rest) →
      u.nesting.stack.entries.length + height ≤ u.nesting.stack.limit →
      ∃ v, Accepts options inner (closer ++ rest) count u v) :
    ∃ t, Accepts options (opener ++ (inner ++ closer)) rest
      (count + if name.isEmpty then 0 else 1) s t := by
  have begins := entry
  rw [List.append_assoc, List.append_assoc] at begins
  let opening : Tag := ⟨.opening, name, s.lexer.cursor.position, s.offset + opener.length⟩
  have form : opening.form = .opening := rfl
  have free : s.nesting.stack.entries.length < s.nesting.stack.limit := by omega
  obtain ⟨n, met, entries, limit, _, counted⟩ := Nesting.meet_of_opening form free
  obtain ⟨u, opened, behind, standsInside, rfl⟩ := stands.steps_of_tag opens begins met
  have roomInside : u.nesting.stack.entries.length + height ≤ u.nesting.stack.limit := by
    rw [entries, limit, List.length_cons]
    omega
  obtain ⟨v, passes⟩ := inside u standsInside behind roomInside
  -- What stands between leaves the opening tag innermost, where the closing tag needs it.
  let closing : Tag := ⟨.closing, name, v.lexer.cursor.position, v.offset + closer.length⟩
  have form' : closing.form = .closing := rfl
  have filled : v.nesting.stack.entries =
      ⟨opening.name, opening.site⟩ :: s.nesting.stack.entries := passes.entries.trans entries
  obtain ⟨m, met', entries', limit', _, counted'⟩ := Nesting.meet_of_closing form' filled rfl
  obtain ⟨t, closed, left, standsBehind, rfl⟩ :=
    passes.stands.steps_of_tag closes passes.left met'
  refine ⟨t, entry, ?_, left, standsBehind, entries', ?_, ?_⟩
  · exact (Relation.ReflTransGen.head opened passes.reaches).tail closed
  · rw [limit', passes.limit, limit]
  · rw [counted', passes.counted, counted, Nat.add_assoc]

/-- A byte of text between tags is passed on its own. -/
theorem Plain.read {b : UInt8} (plain : Plain b) (previous : Option UInt8)
    (rule : Option Rule) (rest : Text) :
    Stride.read options .code previous rule (b :: rest) = ⟨1, .code, none⟩ := by
  obtain ⟨notBracket, notSlash, unquoted, notBackquote⟩ := plain
  by_cases lineEnds : b = Byte.lineFeed
  · simp only [Stride.read, if_pos lineEnds]
    rfl
  · have unopened : Mode.code.commentOpened? options (b :: rest) = none :=
      Mode.commentOpened?_of_ne_slash notSlash _ _
    simp only [Stride.read, if_neg lineEnds, unopened, if_neg notBracket, Lexer.codeNext, unquoted,
      if_neg Bool.false_ne_true, if_neg notBackquote]

theorem reaches_past_text (plain : ∀ b ∈ text, Plain b) (inCode : s.mode = .code)
    (entry : s.ahead = text ++ rest) :
    ∃ t, Scanner.Reaches options s t ∧ t.mode = .code ∧ t.ahead = rest ∧
      t.nesting = s.nesting := by
  induction text generalizing s with
  | nil => exact ⟨s, .refl, inCode, entry, rfl⟩
  | cons b text ih =>
      obtain ⟨first, others⟩ := List.forall_mem_cons.mp plain
      rw [← List.singleton_append, List.append_assoc] at entry
      obtain ⟨u, steps, inCode, behind, same⟩ :=
        Scanner.steps_of_read options entry (List.cons_ne_nil b [])
          fun previous rule => by
            rw [inCode]
            exact first.read previous rule _
      obtain ⟨t, reaches, back, left, kept⟩ := ih others inCode behind
      exact ⟨t, .head steps reaches, back, left, kept.trans same⟩

theorem AtMarkup.accepts_text (stands : AtMarkup s) (plainText : PlainText)
    (entry : s.ahead = plainText.bytes ++ rest) :
    ∃ t, Accepts options plainText.bytes rest 0 s t := by
  obtain ⟨t, reaches, inCode, left, same⟩ :=
    reaches_past_text plainText.plain stands.inCode entry
  have neutral : Neutral t.lexer.cursor.before := by
    rw [Scanner.Reaches.before_eq reaches entry left]
    exact plainText.neutral.append stands.neutral
  refine ⟨t, entry, reaches, left, ⟨inCode, neutral⟩, ?_, ?_, ?_⟩
  · rw [same]
  · rw [same]
  · rw [same, Nat.add_zero]

/-! ## Forests are accepted -/

mutual

theorem Node.accepted (node : Node) {rest : Text} {s : Scanner}
    (short : ∀ name ∈ node.names, name.bytes.length ≤ options.maxNameLength)
    (stands : AtMarkup s) (entry : s.ahead = node.render ++ rest)
    (room : s.nesting.stack.entries.length + node.height ≤ s.nesting.stack.limit) :
    ∃ t, Accepts options node.render rest node.names.length s t := by
  match node with
  | .text text => exact stands.accepts_text text entry
  | .selfClosing name list =>
      have isTag := isTag_opening (short name List.mem_cons_self) list true
      exact stands.accepts_single isTag entry
  | .void name list takesNone =>
      have isTag := isTag_opening (short name List.mem_cons_self) list false
      rw [takesNone] at isTag
      exact stands.accepts_single isTag entry
  | .fragment children =>
      exact stands.accepts_between isTag_fragmentStart isTag_fragmentEnd entry room
        fun u stands entry room => Forest.accepted children short stands entry room
  | .element name list children takesContent =>
      obtain ⟨first, others⟩ := List.forall_mem_cons.mp short
      have opens := isTag_opening first list false
      rw [takesContent] at opens
      have passes := stands.accepts_between opens (isTag_closing first) entry room
        fun u stands entry room => Forest.accepted children others stands entry room
      rwa [name.isEmpty_text] at passes

theorem Forest.accepted (forest : Forest) {rest : Text} {s : Scanner}
    (short : ∀ name ∈ forest.names, name.bytes.length ≤ options.maxNameLength)
    (stands : AtMarkup s) (entry : s.ahead = forest.render ++ rest)
    (room : s.nesting.stack.entries.length + forest.height ≤ s.nesting.stack.limit) :
    ∃ t, Accepts options forest.render rest forest.names.length s t := by
  match forest with
  | [] => exact ⟨s, entry, .refl, entry, stands, rfl, rfl, rfl⟩
  | node :: others =>
      obtain ⟨shortFirst, shortOthers⟩ := List.forall_mem_append.mp short
      have higher : Forest.height (node :: others) = max node.height (Forest.height others) := rfl
      have cut : s.ahead = node.render ++ (Forest.render others ++ rest) :=
        entry.trans (List.append_assoc ..)
      obtain ⟨u, first⟩ := node.accepted shortFirst stands cut (by omega)
      have roomBehind : u.nesting.stack.entries.length + Forest.height others ≤
          u.nesting.stack.limit := by
        rw [first.entries, first.limit]
        omega
      obtain ⟨t, second⟩ := Forest.accepted others shortOthers first.stands first.left roomBehind
      have counted : (Forest.names (node :: others)).length =
          node.names.length + (Forest.names others).length := List.length_append
      rw [counted]
      exact ⟨t, first.append second⟩

end

end Markup

open Markup in
/-- Well-formed markup that nests no deeper than the options allow, in which no name of an
element is cut off, scans without a defect, and its elements are counted: those with a
closing tag, those that close themselves, and the void ones. -/
theorem scan_accepts_rendered (options : ScanOptions) (forest : Forest)
    (short : ∀ name ∈ forest.names, name.bytes.length ≤ options.maxNameLength)
    (shallow : forest.height ≤ options.maxDepth) :
    (scan options forest.render).defect = none ∧
      (scan options forest.render).tagsChecked = forest.names.length := by
  have stands : AtMarkup (.start options forest.render) := ⟨rfl, fun b nearest => by cases nearest⟩
  have entry : (Scanner.start options forest.render).ahead = forest.render ++ [] :=
    (List.append_nil _).symm
  have room : (Scanner.start options forest.render).nesting.stack.entries.length +
      forest.height ≤ options.maxDepth := by
    rw [← Nat.zero_add forest.height] at shallow
    exact shallow
  obtain ⟨t, passes⟩ := Forest.accepted forest short stands entry room
  have ended : scan options forest.render = t.nesting.outcome t.nesting.stack.finish := by
    rw [← Scanner.run_start, passes.reaches.run_eq, Scanner.run_of_end passes.left]
  have closed : t.nesting.stack.finish = none := by
    rw [TagStack.finish_eq, passes.entries]
    rfl
  rw [ended, closed]
  exact ⟨rfl, passes.counted.trans (Nat.zero_add _)⟩

open Markup in
theorem scan_accepts_rendered_nested :
    let a : Name := ⟨0x61, [], rfl, List.forall_mem_nil _⟩
    let br : Name := ⟨0x62, [0x72], rfl, List.forall_mem_singleton.mpr rfl⟩
    let quoted : Value := .quoted Byte.singleQuote [Byte.greaterThan] rfl
      (List.forall_mem_singleton.mpr (by decide))
    let braced : Value := .braced (Byte.openBrace :: [] ++ [Byte.closeBrace])
      (.braces .nil .nil) (List.forall_mem_cons.mpr ⟨rfl, List.forall_mem_singleton.mpr rfl⟩)
    let text : PlainText := ⟨[0x21], List.forall_mem_singleton.mpr (by decide), by
      rintro _ ⟨⟩
      rfl⟩
    let forest : Forest := [.element a [⟨a, quoted⟩, ⟨a, braced⟩]
      [.text text, .fragment [.selfClosing a []], .void br [] (by decide +kernel)]
      (by decide +kernel)]
    let options : ScanOptions := { maxDepth := 2, maxNameLength := 2 }
    forest.render =
        "<a a='>' a=\x7b\x7b\x7d\x7d>!<><a/></><br></a>".toUTF8.toList ∧
      (∀ name ∈ forest.names, name.bytes.length ≤ options.maxNameLength) ∧
      forest.height ≤ options.maxDepth ∧
      (scan options forest.render).defect = none ∧
      (scan options forest.render).tagsChecked = 3 := by
  intro a br quoted braced text forest options
  have short : ∀ name ∈ forest.names, name.bytes.length ≤ options.maxNameLength := by decide
  have shallow : forest.height ≤ options.maxDepth := by decide
  refine ⟨by decide +kernel, short, shallow, ?_⟩
  exact scan_accepts_rendered options forest short shallow

end TagCheck
