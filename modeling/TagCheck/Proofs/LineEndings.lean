/-
# Line endings

A scan of a text with carriage returns before its line feeds finds what a scan of the text
finds, at the places where it has gone to (`scan_withReturns`).

To the lexer a carriage return means nothing, with one exception: a bracket before a line feed
is an operator, and one before a carriage return is none. This does not show either, as no name
begins with a carriage return.

The two runs do not keep step. In code a carriage return is a step of its own, and in a
comment it is passed together with what stands before it. So what corresponds are not the
steps, but the lexemes ahead (`Lexer.lexemesAhead_returned`).
-/

import TagCheck.Proofs.Positions
import TagCheck.Proofs.Relocation
import TagCheck.Proofs.Returns

namespace TagCheck

/-! ## Strides -/

namespace Stride

/-- The stride on the text with returns that corresponds to a stride on the text. -/
structure InStep (ahead : Text) (s t : Stride) : Prop where
  front : TagCheck.InStep ahead s.length t.length
  mode : t.mode = s.mode
  found : t.found = s.found

namespace InStep

variable {ahead : Text} {s t : Stride}

theorem plain (ahead : Text) : InStep ahead (plain 0) (plain 0) := ⟨.zero _, rfl, rfl⟩

theorem behind {b : UInt8} (other : b ≠ Byte.lineFeed) (inStep : InStep ahead s t) :
    InStep (b :: ahead) (s.behind 1) (t.behind 1) := by
  refine ⟨?_, inStep.mode, inStep.found⟩
  simp only [Stride.behind, Nat.add_comm 1]
  exact inStep.front.cons other

end InStep

variable (options : ScanOptions)

theorem closingTag_inStep (ahead : Text) :
    InStep ahead (closingTag options ahead) (closingTag options (withReturns ahead)) := by
  generalize read : TagName.bytes options.maxNameLength ahead = name
  have read' : TagName.bytes options.maxNameLength (withReturns ahead) = name := by
    rw [bytes_withReturns, read]
  by_cases unnamed : name = []
  · rw [closingTag_of_unnamed (read.trans unnamed), closingTag_of_unnamed (read'.trans unnamed)]
    exact .plain ahead
  · obtain ⟨rest, rfl⟩ := read ▸ TagName.bytes_prefix options.maxNameLength ahead
    have oneLine : Byte.lineFeed ∉ name := read ▸ lineFeed_not_mem_bytes _ _
    rw [closingTag_of_named read unnamed, closingTag_of_named read' unnamed, withReturns_append,
      withReturns_of_oneLine oneLine, List.drop_left, List.drop_left]
    exact ⟨.append oneLine (distance_inStep rfl rfl rest), rfl, rfl⟩

theorem openingTag_inStep (ahead : Text) :
    InStep ahead (openingTag options ahead) (openingTag options (withReturns ahead)) := by
  generalize read : TagName.bytes options.maxNameLength ahead = name
  have read' : TagName.bytes options.maxNameLength (withReturns ahead) = name := by
    rw [bytes_withReturns, read]
  by_cases unnamed : name = []
  · rw [openingTag_of_unnamed (read.trans unnamed), openingTag_of_unnamed (read'.trans unnamed)]
    exact .plain ahead
  · obtain ⟨rest, rfl⟩ := read ▸ TagName.bytes_prefix options.maxNameLength ahead
    have oneLine : Byte.lineFeed ∉ name := read ▸ lineFeed_not_mem_bytes _ _
    have quotes : ∀ q ∈ (none : Option UInt8), Byte.isQuote q := nofun
    obtain ⟨front, same⟩ := attributes_inStep name.getLast? quotes 0 rest
    rw [openingTag_of_named read unnamed (congrArg _ (List.drop_left ..)),
      openingTag_of_named read' unnamed (congrArg _ (by
        rw [withReturns_append, withReturns_of_oneLine oneLine, List.drop_left])), same]
    exact ⟨.append oneLine front, rfl, rfl⟩

theorem tagBody_inStep (rule : Option Rule) (closing : Bool) (ahead : Text) :
    InStep ahead (tagBody options rule closing ahead)
      (tagBody options rule closing (withReturns ahead)) := by
  have closed := closingTag_inStep options ahead
  have opened := openingTag_inStep options ahead
  have bracketed := typeArgumentsLength_inStep Nat.one_pos ahead
  induction ahead using lineFeeds_induction with
  | nil => exact .plain []
  | lineFeed rest => exact .plain _
  | other first rest lineEnds =>
      rw [withReturns_cons rest lineEnds] at closed opened bracketed ⊢
      simp only [tagBody]
      split
      · exact ⟨(TagCheck.InStep.zero rest).cons lineEnds, rfl, rfl⟩
      · split
        · exact .plain _
        · split
          · exact closed
          · cases rule with
            | none => exact opened
            | some rule => exact ⟨bracketed, rfl, rfl⟩

/-- A line ending after a bracket makes it no tag; a line feed as an operator would, a
carriage return because no name begins with it. -/
theorem angleBracket_inStep (rule : Option Rule) (ahead : Text) :
    InStep ahead (angleBracket options rule ahead)
      (angleBracket options rule (withReturns ahead)) := by
  have body := tagBody_inStep options rule false ahead
  induction ahead using lineFeeds_induction with
  | nil => exact .plain []
  | lineFeed rest => exact .plain _
  | other b rest lineEnds =>
      rw [withReturns_cons rest lineEnds] at body ⊢
      simp only [angleBracket]
      split
      · exact .plain _
      · split
        · exact (tagBody_inStep options rule true rest).behind lineEnds
        · exact body

theorem commentOpened?_withReturns (mode : Mode) (ahead : Text) :
    mode.commentOpened? options (withReturns ahead) = mode.commentOpened? options ahead := by
  induction ahead using lineFeeds_induction with
  | nil => rfl
  | lineFeed rest =>
      rw [withReturns_lineFeed, Mode.commentOpened?_of_ne_slash (by decide),
        Mode.commentOpened?_of_ne_slash (by decide)]
  | other first rest lineEnds =>
      rw [withReturns_cons rest lineEnds]
      induction rest using lineFeeds_induction with
      | nil => rfl
      | lineFeed rest =>
          rw [withReturns_lineFeed, Mode.commentOpened?, Mode.commentOpened?]
          rfl
      | other second rest lineEnds' =>
          rw [withReturns_cons rest lineEnds']
          rfl

end Stride

/-- A mode that the lexer can be in: a string is delimited by quotes. -/
def Mode.Delimited : Mode → Prop
  | quoted q => Byte.isQuote q
  | _ => True

namespace Stride

variable {options : ScanOptions} {mode : Mode} {previous : Option UInt8} {rule : Option Rule}

theorem afterLine_delimited (delimited : mode.Delimited) : mode.afterLine.Delimited := by
  cases mode with
  | lineComment host => cases host <;> trivial
  | _ => exact delimited

theorem read_delimited (delimited : mode.Delimited) (ahead : Text) :
    (read options mode previous rule ahead).mode.Delimited := by
  cases ahead with
  | nil => exact delimited
  | cons b rest =>
      simp only [read]
      split
      · exact afterLine_delimited delimited
      · split
        · rename_i comment opened
          obtain ⟨host, _, _, ⟨_, rfl⟩ | ⟨_, rfl⟩⟩ := Mode.commentOpened?_eq_some opened
          · trivial
          · trivial
        · cases mode with
          | lineComment host => trivial
          | blockComment host =>
              simp only
              split
              · cases host <;> trivial
              · trivial
          | quoted q =>
              simp only [Lexer.quotedNext]
              split
              · trivial
              · exact delimited
          | template depth =>
              simp only [Lexer.templateNext]
              repeat' split
              all_goals trivial
          | code =>
              simp only [Lexer.codeNext]
              split
              · rw [behind, angleBracket_mode]
                trivial
              · split
                · assumption
                · split <;> trivial

/-- A carriage return before a line feed is passed on its own, in whatever mode. -/
theorem read_lineEnding (delimited : mode.Delimited) (rest : Text) :
    read options mode previous rule (Byte.carriageReturn :: Byte.lineFeed :: rest) =
      ⟨1, mode, none⟩ := by
  cases mode with
  | quoted q =>
      have other : Byte.carriageReturn ≠ q := by
        rintro rfl
        exact Bool.false_ne_true delimited
      have still : Lexer.quotedNext q previous Byte.carriageReturn = .quoted q := by
        simp only [Lexer.quotedNext, other, decide_false, Bool.false_and, Bool.false_eq_true,
          if_false]
      exact congrArg (Stride.mk 1 · none) still
  | code => rfl
  | template depth => cases depth <;> rfl
  | lineComment host => rfl
  | blockComment host => rfl

/-- A step that does not begin with a line feed passes the same on the text with returns. Only
if it jumps to the end of a line inside a comment, it passes the carriage return as well. -/
theorem read_inStep {b : UInt8} (other : b ≠ Byte.lineFeed) (rest : Text) :
    let s := read options mode previous rule (b :: rest)
    let t := read options mode previous rule (withReturns (b :: rest))
    InStep (b :: rest) s t ∨
      ∃ left count, (b :: rest).drop s.length = Byte.lineFeed :: left ∧
        TagCheck.InStep (b :: rest) s.length count ∧
        s = ⟨s.length, mode, none⟩ ∧ t = ⟨count + 1, mode, none⟩ := by
  have one : TagCheck.InStep (b :: rest) 1 1 := (TagCheck.InStep.zero rest).cons other
  have pair {second : UInt8} (notLineFeed : second ≠ Byte.lineFeed)
      (follows : ∃ tail, rest = second :: tail) : TagCheck.InStep (b :: rest) 2 2 := by
    obtain ⟨tail, rfl⟩ := follows
    exact ((TagCheck.InStep.zero tail).cons notLineFeed).cons other
  have lineEnd := distance_of_lineFeed (· == Byte.lineFeed) rfl rfl (b :: rest)
  have commentEnd :=
    distance_of_lineFeed (fun b => b == Byte.asterisk || b == Byte.lineFeed) rfl rfl rest
  have opener := commentOpened?_withReturns options mode (b :: rest)
  rw [withReturns_cons rest other] at lineEnd opener ⊢
  simp only [read, if_neg other, opener]
  cases opened : mode.commentOpened? options (b :: rest) with
  | some comment =>
      obtain ⟨_, tail, _, ⟨ahead, _⟩ | ⟨ahead, _⟩⟩ := Mode.commentOpened?_eq_some opened
      · exact .inl ⟨pair (by decide) ⟨tail, (List.cons.inj ahead).2⟩, rfl, rfl⟩
      · exact .inl ⟨pair (by decide) ⟨tail, (List.cons.inj ahead).2⟩, rfl, rfl⟩
  | none =>
      cases mode with
      | lineComment host =>
          rcases lineEnd with front | ⟨left, count, dropped, front, far⟩
          · exact .inl ⟨front, rfl, rfl⟩
          · exact .inr ⟨left, count, dropped, front, rfl, congrArg (Stride.mk · _ _) far⟩
      | blockComment host =>
          simp only [head?_withReturns Byte.slash rest (by decide) (by decide)]
          split
          · rename_i ends
            exact .inl ⟨pair (by decide) (and_head?_eq_some.mp ends).2, rfl, rfl⟩
          · rcases commentEnd with front | ⟨left, count, dropped, front, far⟩
            · exact .inl ⟨front.cons other, rfl, rfl⟩
            · exact .inr ⟨left, count + 1, dropped, front.cons other, rfl,
                congrArg (fun stop => Stride.mk (stop + 1) _ _) far⟩
      | quoted q => exact .inl ⟨one, rfl, rfl⟩
      | template depth =>
          simp only [head?_withReturns Byte.openBrace rest (by decide) (by decide)]
          split
          · rename_i opens
            exact .inl ⟨pair (by decide) (and_head?_eq_some.mp opens).2, rfl, rfl⟩
          · exact .inl ⟨one, rfl, rfl⟩
      | code =>
          simp only
          split
          · exact .inl ((angleBracket_inStep options rule rest).behind other)
          · exact .inl ⟨one, rfl, rfl⟩

end Stride

/-! ## The whole text -/

/-- Passing the text with returns leads further by their number, to the same line and
column. -/
theorem Position.past_withReturns (p : Position) (before : Nat) (text : Text) :
    (p.moved (· + before)).past (withReturns text) =
      (p.past text).moved (· + (before + text.count Byte.lineFeed)) := by
  induction text using lineFeeds_induction generalizing p before with
  | nil => rfl
  | lineFeed rest ih =>
      have passed : (p.moved (· + before)).past (withReturns (Byte.lineFeed :: rest)) =
          ((p.next Byte.lineFeed).moved (· + (before + 1))).past (withReturns rest) := by
        change Position.past ⟨p.offset + before + 1 + 1, p.line + 1, 1⟩ _ =
          Position.past ⟨p.offset + 1 + (before + 1), p.line + 1, 1⟩ _
        congr 2
        omega
      rw [passed, ih, List.count_cons_self, Nat.add_assoc before, Nat.add_comm 1]
      rfl
  | other b rest lineEnds ih =>
      have same : (p.moved (· + before)).next b = (p.next b).moved (· + before) := by
        simp only [next, moved, if_neg lineEnds]
        split <;> simp only [Nat.add_right_comm]
      rw [withReturns_cons rest lineEnds, List.count_cons_of_ne lineEnds]
      change ((p.moved (· + before)).next b).past (withReturns rest) = _
      rw [same, ih]
      rfl

/-- The place in the text with returns that a cursor has in the text. -/
def Cursor.returned (c : Cursor) : Cursor where
  before := (withReturns c.before.reverse).reverse
  after := withReturns c.after
  position := c.position.moved (· + c.before.count Byte.lineFeed)

/-- Where a byte of a text stands in the text with returns: each line feed before it has
moved it by one. -/
def returnedOffset (text : Text) (offset : Nat) : Nat :=
  offset + (text.take offset).count Byte.lineFeed

theorem Finding.lexeme_moved (move : Nat → Nat) (finding : Finding) (site : Position)
    (stop : Nat) :
    (finding.lexeme site stop).moved move = finding.lexeme (site.moved move) (move stop) := by
  cases finding <;> rfl

theorem returnedOffset_monotone (text : Text) : Monotone (returnedOffset text) := by
  intro first second notLater
  have prefix' : text.take first <+: text.take second := List.take_prefix_take_left notLater
  exact Nat.add_le_add notLater (prefix'.sublist.count_le _)

namespace Cursor

variable {text : Text} {c : Cursor}

theorem StandsIn.returnedOffset_eq (stands : c.StandsIn text) :
    returnedOffset text c.position.offset = c.returned.position.offset := by
  rw [returnedOffset, stands.before_eq, List.count_reverse]
  rfl

theorem StandsIn.position_returned (stands : c.StandsIn text) :
    c.returned.position = c.position.moved (returnedOffset text) := by
  rw [Position.moved, stands.returnedOffset_eq]
  rfl

/-- Passing the corresponding bytes leads to the corresponding place. -/
theorem returned_advance {count count' : Nat} (front : InStep c.after count count') :
    c.returned.advance count' = (c.advance count).returned := by
  have taken : c.returned.after.take count' = withReturns (c.after.take count) := front
  have left : c.returned.after.drop count' = withReturns (c.after.drop count) := front.drop
  rw [advance_eq, advance_eq, taken, left]
  simp only [returned, List.reverse_append, List.reverse_reverse, withReturns_append,
    Position.past_withReturns, List.count_append, List.count_reverse, Nat.add_comm]

end Cursor

namespace Lexer

variable (options : ScanOptions)

/-- The lexer at the same place of the text with returns. -/
def returned (l : Lexer) : Lexer := ⟨l.cursor.returned, l.mode⟩

theorem stride_returned (l : Lexer) :
    l.returned.stride options = Stride.read options l.mode l.cursor.before.head?
      (classify l.cursor.before) (withReturns l.cursor.after) := by
  rw [stride]
  simp only [returned, Cursor.returned, reverse_withReturns, List.reverse_reverse,
    head?_behindReturns, classify_behindReturns]

theorem stride_inStep {l : Lexer} {b : UInt8} {rest : Text} (ahead : l.cursor.after = b :: rest)
    (other : b ≠ Byte.lineFeed) :
    Stride.InStep l.cursor.after (l.stride options) (l.returned.stride options) ∨
      ∃ left count, l.cursor.after.drop (l.stride options).length = Byte.lineFeed :: left ∧
        InStep l.cursor.after (l.stride options).length count ∧
        l.stride options = ⟨(l.stride options).length, l.mode, none⟩ ∧
        l.returned.stride options = ⟨count + 1, l.mode, none⟩ := by
  rw [stride_returned, stride, ahead]
  exact Stride.read_inStep other rest

theorem lexemesAhead_of_quiet {l : Lexer} {length : Nat} {mode : Mode}
    (ahead : l.cursor.after ≠ []) (stride : l.stride options = ⟨length, mode, none⟩) :
    l.lexemesAhead options = lexemesAhead options ⟨l.cursor.advance length, mode⟩ := by
  rw [lexemesAhead_of_ahead options ahead, step_eq_stride, stride]
  rfl

/-- A carriage return is passed, whether by the step that came to it or by one of its own. -/
theorem lexemesAhead_of_lineFeed {l : Lexer} {rest : Text} (delimited : l.mode.Delimited)
    (ahead : l.cursor.after = Byte.lineFeed :: rest) :
    l.returned.lexemesAhead options =
      lexemesAhead options ⟨l.cursor.returned.advance 1, l.mode⟩ := by
  have ahead' : l.returned.cursor.after =
      Byte.carriageReturn :: Byte.lineFeed :: withReturns rest := by
    simp only [returned, Cursor.returned, ahead]
    rfl
  apply lexemesAhead_of_quiet options (ahead' ▸ List.cons_ne_nil _ _)
  rw [stride, ahead']
  exact Stride.read_lineEnding delimited _

/-- A line ending of the text with returns is passed in two steps. -/
theorem lexemesAhead_past_lineFeed {l : Lexer} {rest : Text} (delimited : l.mode.Delimited)
    (ahead : l.cursor.after = Byte.lineFeed :: rest) :
    l.returned.lexemesAhead options =
      (⟨l.cursor.advance 1, l.mode.afterLine⟩ : Lexer).returned.lexemesAhead options := by
  have front : InStep l.cursor.after 1 2 := by
    rw [ahead]
    exact (InStep.zero rest).lineFeed
  have ahead' : (l.cursor.returned.advance 1).after = Byte.lineFeed :: withReturns rest := by
    rw [Cursor.advance_after]
    simp only [Cursor.returned, ahead]
    rfl
  have feed : (⟨l.cursor.returned.advance 1, l.mode⟩ : Lexer).stride options =
      ⟨1, l.mode.afterLine, none⟩ := by
    rw [stride, ahead']
    rfl
  rw [lexemesAhead_of_lineFeed options delimited ahead,
    lexemesAhead_of_quiet options (ahead' ▸ List.cons_ne_nil _ _) feed]
  simp only [← Cursor.advance_add]
  rw [Cursor.returned_advance front]
  rfl

/-- Corresponding strides find the same at corresponding places. -/
theorem step_returned {text : Text} {l : Lexer} (stands : l.cursor.StandsIn text)
    (inStep : Stride.InStep l.cursor.after (l.stride options) (l.returned.stride options)) :
    l.returned.step options = ((l.step options).1.returned,
      (l.step options).2.map (Lexeme.moved (returnedOffset text))) := by
  obtain ⟨front, mode, found⟩ := inStep
  have place : l.returned.cursor.advance (l.returned.stride options).length =
      (l.cursor.advance (l.stride options).length).returned := Cursor.returned_advance front
  rw [step_eq_stride, step_eq_stride, Stride.land, Stride.land, place, mode, found]
  refine Prod.ext rfl ?_
  cases (l.stride options).found with
  | none => rfl
  | some finding =>
      simp only [Option.map_some, Finding.lexeme_moved, ← stands.position_returned,
        (stands.advance _).returnedOffset_eq]
      rfl

/-- What lies ahead in the text with returns is what lies ahead in the text, at the places
it has gone to. -/
theorem lexemesAhead_returned {text : Text} {l : Lexer} (stands : l.cursor.StandsIn text)
    (delimited : l.mode.Delimited) :
    l.returned.lexemesAhead options =
      (l.lexemesAhead options).map (Lexeme.moved (returnedOffset text)) := by
  induction l using steps_induction options with
  | ended l atEnd =>
      have atEnd' : l.returned.cursor.after = [] := by
        simp only [returned, Cursor.returned, atEnd]
        rfl
      rw [lexemesAhead_of_end options atEnd, lexemesAhead_of_end options atEnd']
      rfl
  | stepped l ahead ih =>
      have next : (l.step options).1 =
          ⟨l.cursor.advance (l.stride options).length, (l.stride options).mode⟩ := by
        rw [step_eq_stride]
      rw [next] at ih
      have onward := ih (stands.advance _) (Stride.read_delimited delimited _)
      obtain ⟨b, rest, front⟩ := List.exists_cons_of_ne_nil ahead
      by_cases lineEnds : b = Byte.lineFeed
      · subst lineEnds
        have stride : l.stride options = ⟨1, l.mode.afterLine, none⟩ := by
          rw [stride, front]
          rfl
        rw [stride] at onward
        rw [lexemesAhead_past_lineFeed options delimited front, onward,
          lexemesAhead_of_quiet options ahead stride]
      · have ahead' : l.returned.cursor.after ≠ [] := by
          simp only [returned, Cursor.returned, front, withReturns_cons rest lineEnds]
          exact List.cons_ne_nil _ _
        rcases stride_inStep options front lineEnds with
          inStep | ⟨left, count, dropped, taken, quiet, quiet'⟩
        · rw [lexemesAhead_of_ahead options ahead', lexemesAhead_of_ahead options ahead,
            step_returned options stands inStep, next, onward, List.map_append,
            Option.toList_map]
        · have lineEnd : (l.cursor.advance (l.stride options).length).after =
              Byte.lineFeed :: left := by
            rw [Cursor.advance_after]
            exact dropped
          have mode : (l.stride options).mode = l.mode := congrArg Stride.mode quiet
          rw [mode] at onward
          rw [lexemesAhead_of_quiet options ahead' quiet', Cursor.advance_add]
          change lexemesAhead options ⟨(l.cursor.returned.advance count).advance 1, l.mode⟩ = _
          rw [Cursor.returned_advance taken, lexemesAhead_of_quiet options ahead quiet, ← onward]
          exact (lexemesAhead_of_lineFeed options
            (l := ⟨l.cursor.advance (l.stride options).length, l.mode⟩) delimited lineEnd).symm

end Lexer

/-- Line endings do not matter: the text with returns has the tags and the defect of the
text, at the same lines and columns and at the offsets that these have gone to, and the
defect is put in the same words. -/
theorem scan_withReturns (options : ScanOptions) (text : Text) :
    scan options (withReturns text) = (scan options text).moved (returnedOffset text) ∧
      (scan options (withReturns text)).defect.map Defect.message =
        (scan options text).defect.map Defect.message := by
  have lexemes : Lexer.lexemes options (withReturns text) =
      (Lexer.lexemes options text).map (Lexeme.moved (returnedOffset text)) :=
    Lexer.lexemesAhead_returned options (l := Lexer.ofText text) ⟨rfl, rfl⟩ trivial
  have moved : scan options (withReturns text) =
      (scan options text).moved (returnedOffset text) := by
    have settled := (Nesting.start options).settle_moved (returnedOffset_monotone text)
      (Lexer.lexemes options text)
    rw [← lexemes] at settled
    exact settled
  refine ⟨moved, ?_⟩
  rw [moved, Outcome.moved, Option.map_map]
  exact congrArg (Option.map · _) (funext (Defect.message_moved _))

end TagCheck
