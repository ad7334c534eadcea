/-
# The scanner does nothing wrong

Here the whole scanner is written over positions in a text, with checked accesses: the
steps of every mode (`Checked.step`) and the loop of the run (`Checked.run`). On a text that
is short enough for its places to be counted in 32 bits no step meets a fault, whatever the
bytes and the options are, and each does what the scanner does (`Scanner.Visits.step_eq`).

What makes the accesses safe is not to be seen where they are made. The byte before a
quote is there because the string was entered by passing a byte; a jump along a line meets
no line feed because line feeds are passed before anything else is tried; the counts fit
because each of them counts bytes that have been passed (`Scanner.Sized`).
-/

import TagCheck.Proofs.CheckedTags

namespace TagCheck

namespace Checked

/-! ## Steps by index -/

section Modes

variable (text : Text) (b : UInt8) (p : Position)

/-- Pass the rest of a line. -/
def skipLineComment (mode : Mode) : Checked (Position × Mode) := do
  let line ← slice text p.offset text.length
  let p ← skipTo text p (p.offset + distance (· == Byte.lineFeed) line)
  pure (p, mode)

/-- Pass the end of a comment, or what stands before its next asterisk or line feed. -/
def scanBlockComment (host : Host) : Checked (Position × Mode) :=
  if b = Byte.asterisk && text[p.offset + 1]? == some Byte.slash then do
    let p ← advancePair p
    pure (p, host.mode)
  else do
    let start := p.offset + 1
    let rest ← slice text start text.length
    let p ← skipTo text p
      (start + distance (fun b => b == Byte.asterisk || b == Byte.lineFeed) rest)
    pure (p, .blockComment host)

/-- Pass one byte of a string. -/
def scanString (quote : UInt8) : Checked (Position × Mode) := do
  let ends ← endsValue text quote b p
  let p ← advance text p
  pure (p, if ends then .code else .quoted quote)

/-- Pass one byte of a template literal, or the two that open an interpolation. -/
def scanTemplate (depth : Nat) : Checked (Position × Mode) :=
  if b = Byte.backquote && depth = 0 then do
    let p ← advance text p
    pure (p, .code)
  else if b = Byte.dollar && text[p.offset + 1]? == some Byte.openBrace then do
    let depth ← word (depth + 1)
    let p ← advancePair p
    pure (p, .template depth)
  else if b = Byte.openBrace && depth > 0 then do
    let depth ← word (depth + 1)
    let p ← advance text p
    pure (p, .template depth)
  else if b = Byte.closeBrace && depth > 0 then do
    let depth ← less depth 1
    let p ← advance text p
    pure (p, .template depth)
  else do
    let p ← advance text p
    pure (p, .template depth)

end Modes

section Steps

variable (options : ScanOptions) (text : Text)

/-- The place a step leads to that finds nothing. -/
def pass (n : Nesting) (r : Position × Mode) : Place × Option Defect := (⟨r.1, r.2, n⟩, none)

/-- Pass the next byte, or the next few, and meet what they began. -/
def step (s : Place) : Checked (Place × Option Defect) := do
  let b ← byteAt text s.position.offset
  if b = Byte.lineFeed then do
    let p ← advance text s.position
    pure (pass s.nesting (p, s.mode.afterLine))
  else
    match s.mode.commentOpened? options (b :: text[s.position.offset + 1]?.toList) with
    | some comment => do
        let p ← advancePair s.position
        pure (pass s.nesting (p, comment))
    | none =>
        match s.mode with
        | .lineComment _ => do
            let passed ← skipLineComment text s.position s.mode
            pure (pass s.nesting passed)
        | .blockComment host => do
            let passed ← scanBlockComment text b s.position host
            pure (pass s.nesting passed)
        | .quoted quote => do
            let passed ← scanString text b s.position quote
            pure (pass s.nesting passed)
        | .template depth => do
            let passed ← scanTemplate text b s.position depth
            pure (pass s.nesting passed)
        | .code =>
            if b = Byte.lessThan then angleBracket options text s.nesting s.position
            else do
              let p ← advance text s.position
              pure (pass s.nesting (p, Lexer.codeNext b))

/-- Make a step if there is text left. -/
def runTurn (s : Place) : Checked (Turn Place Outcome) :=
  if s.position.offset < text.length then do
    let (next, defect) ← step options text s
    match defect with
    | none => pure (.again next)
    | some defect => pure (.done (next.nesting.outcome (some defect)))
  else pure (.done (s.nesting.outcome s.nesting.stack.finish))

/-- Scan on to the end of the text or to the first defect, in no more than `steps` steps. -/
def run (steps : Nat) (s : Place) : Checked Outcome := loop (runTurn options text) (steps + 1) s

end Steps

end Checked

/-! ## What stays small -/

def Host.braces : Host → Nat
  | .code => 0
  | .template depth => depth

/-- How many braces the template literal has open that the lexer is in. -/
def Mode.braces : Mode → Nat
  | .template depth => depth
  | .lineComment host => host.braces
  | .blockComment host => host.braces
  | _ => 0

theorem Host.braces_mode (host : Host) : host.mode.braces = host.braces := by
  cases host <;> rfl

theorem Mode.braces_afterLine (mode : Mode) : mode.afterLine.braces = mode.braces := by
  cases mode with
  | lineComment host => exact host.braces_mode
  | _ => rfl

theorem Mode.braces_commentOpened {options : ScanOptions} {mode comment : Mode} {ahead : Text}
    (opened : mode.commentOpened? options ahead = some comment) :
    comment.braces = mode.braces := by
  obtain ⟨host, _, hosted, opens⟩ := Mode.commentOpened?_eq_some opened
  have same : host.braces = mode.braces := by
    cases mode with
    | code =>
        cases hosted
        rfl
    | template depth =>
        simp only [commentHost?] at hosted
        split at hosted
        · cases hosted
        · cases hosted
          rfl
    | _ => cases hosted
  rcases opens with ⟨_, rfl⟩ | ⟨_, rfl⟩
  · exact same
  · exact same

/-- A step opens one brace at most. -/
theorem Stride.read_braces_le (options : ScanOptions) (mode : Mode) (previous : Option UInt8)
    (rule : Option Rule) (ahead : Text) :
    (read options mode previous rule ahead).mode.braces ≤ mode.braces + 1 := by
  cases ahead with
  | nil => exact Nat.le_succ _
  | cons b rest =>
      simp only [read]
      split
      · exact (Mode.braces_afterLine mode).le.trans (Nat.le_succ _)
      · split
        · rename_i comment opened
          exact (Mode.braces_commentOpened opened).le.trans (Nat.le_succ _)
        · cases mode with
          | lineComment host => exact Nat.le_succ _
          | blockComment host =>
              simp only
              split
              · exact host.braces_mode.le.trans (Nat.le_succ _)
              · exact Nat.le_succ _
          | quoted quote =>
              simp only [Lexer.quotedNext]
              split <;> exact Nat.le_succ _
          | template depth =>
              simp only [Lexer.templateNext]
              split
              · exact Nat.le_refl _
              · split
                · exact Nat.zero_le _
                · split
                  · exact Nat.le_refl _
                  · split
                    · exact (Nat.sub_le _ _).trans (Nat.le_succ _)
                    · exact Nat.le_succ _
          | code =>
              simp only [Lexer.codeNext]
              split
              · rw [behind, angleBracket_mode]
                exact Nat.zero_le _
              · split
                · exact Nat.zero_le _
                · split <;> exact Nat.zero_le _

theorem Nesting.tagsChecked_of_openTag {n m : Nesting} {t : Tag} (opened : n.openTag t = .ok m) :
    m.tagsChecked = n.tagsChecked := by
  unfold openTag at opened
  split at opened
  · cases opened
  · split at opened <;> cases opened <;> rfl

/-- A lexeme counts for one tag at most. -/
theorem Nesting.meetFound_tagsChecked_le (n : Nesting) (found : Option Lexeme) :
    (n.meetFound found).1.tagsChecked ≤ n.tagsChecked + 1 := by
  cases found with
  | none => exact Nat.le_succ _
  | some lexeme =>
      rw [meetFound]
      split
      · rename_i met meets
        cases lexeme with
        | typeBrackets site rule =>
            cases meets
            exact Nat.le_succ _
        | tag t =>
            rw [meet] at meets
            split at meets
            · rw [tagsChecked_of_openTag meets]
              exact Nat.le_succ _
            · unfold closeTag at meets
              split at meets
              · cases meets
              · cases meets
                split
                · exact Nat.le_succ _
                · exact Nat.le_refl _
            · cases meets
              exact Nat.le_refl _
      · exact Nat.le_succ _

namespace Scanner

variable {options : ScanOptions} {text : Text} {s : Scanner}

/-- The scanner with its text kept apart. -/
def place (s : Scanner) : Checked.Place := ⟨s.lexer.cursor.position, s.mode, s.nesting⟩

/-- What counts bytes that have been passed is no larger than the offset, and outside of code
there is a byte that has been passed. -/
structure Sized (s : Scanner) : Prop where
  braces : s.mode.braces ≤ s.offset
  tagsChecked : s.nesting.tagsChecked ≤ s.offset
  entered : s.mode ≠ .code → 0 < s.offset

/-- A step passes a byte and stays in the text, also if it meets a defect. -/
theorem Visits.step_advances (visits : Visits options text s) (ahead : s.ahead ≠ []) :
    s.offset < (s.step options).1.offset ∧ (s.step options).1.offset ≤ text.length := by
  have shorter : (s.step options).1.lexer.cursor.after.length < s.lexer.cursor.after.length :=
    Lexer.step_shortens options ahead
  have room := visits.standsIn.offset_add
  have room' := visits.standsIn_step.offset_add
  simp only [offset]
  omega

theorem Visits.sized_step (visits : Visits options text s) (ahead : s.ahead ≠ [])
    (sized : s.Sized) : (s.step options).1.Sized := by
  have further := (visits.step_advances ahead).1
  have braces : (s.step options).1.mode.braces ≤ s.mode.braces + 1 := by
    rw [mode, step_lexer, Lexer.step_eq_stride]
    exact Stride.read_braces_le ..
  have tags : (s.step options).1.nesting.tagsChecked ≤ s.nesting.tagsChecked + 1 :=
    Nesting.meetFound_tagsChecked_le ..
  obtain ⟨fewBraces, fewTags, _⟩ := sized
  exact ⟨by omega, by omega, fun _ => by omega⟩

theorem Visits.sized (visits : Visits options text s) : s.Sized := by
  induction visits with
  | refl => exact ⟨Nat.le_refl _, Nat.le_refl _, fun notCode => absurd rfl notCode⟩
  | tail visits steps ih =>
      have stepped := Visits.sized_step visits steps.1 ih
      rwa [steps.2] at stepped

/-- Everything that a scanner counts fits in 32 bits. -/
structure Countable (s : Scanner) : Prop where
  offset : s.offset < 0x100000000
  line : s.lexer.cursor.position.line < 0x100000000
  column : s.lexer.cursor.position.column < 0x100000000
  braces : s.mode.braces < 0x100000000
  tagsChecked : s.nesting.tagsChecked < 0x100000000

/-- A step that finds nothing moves the lexer only. -/
theorem step_of_quiet {length : Nat} {mode : Mode}
    (stride : s.lexer.stride options = ⟨length, mode, none⟩) :
    s.step options = (⟨⟨s.lexer.cursor.advance length, mode⟩, s.nesting⟩, none) := by
  rw [step, Lexer.step_eq_stride, stride]
  rfl

end Scanner

namespace Checked

section Agreement

variable {options : ScanOptions} {text : Text} {c : Cursor} {b : UInt8} {rest : Text}
variable (short : text.length ≤ longest) (stands : c.StandsIn text) (ahead : c.after = b :: rest)

include short stands ahead

theorem skipLineComment_eq (mode : Mode) :
    skipLineComment text c.position mode =
      .ok ((c.advance (distance (· == Byte.lineFeed) (b :: rest))).position, mode) := by
  have inside : distance (· == Byte.lineFeed) c.after ≤ c.after.length := List.findIdx_le_length
  have oneLine : Byte.lineFeed ∉ c.after.take (distance (· == Byte.lineFeed) c.after) :=
    not_mem_take_distance rfl c.after
  rw [skipLineComment, slice_ahead stands, ok_bind, skipTo_eq short stands inside oneLine, ahead]
  rfl

theorem scanBlockComment_eq (host : Host) (notLineFeed : b ≠ Byte.lineFeed) :
    scanBlockComment text b c.position host =
      let passed : Nat × Mode :=
        if b = Byte.asterisk && rest.head? == some Byte.slash then (2, host.mode)
        else (distance (fun b => b == Byte.asterisk || b == Byte.lineFeed) rest + 1,
          .blockComment host)
      .ok ((c.advance passed.1).position, passed.2) := by
  rw [scanBlockComment, get_second stands ahead]
  simp only
  split
  · rename_i ends
    obtain ⟨rfl, tail, rfl⟩ := and_head?_eq_some.mp ends
    rw [advancePair_eq short stands ahead (by decide) (by decide)]
    rfl
  · have next : slice text (c.position.offset + 1) text.length = .ok rest := by
      have slice := slice_ahead (stands.advance 1)
      rwa [Cursor.advance_one, next_offset ahead, next_after ahead] at slice
    generalize stop : distance (fun b => b == Byte.asterisk || b == Byte.lineFeed) rest = count
    have inside : count + 1 ≤ c.after.length := by
      rw [ahead, ← stop]
      exact Nat.succ_le_succ List.findIdx_le_length
    have oneLine : Byte.lineFeed ∉ c.after.take (count + 1) := by
      rw [ahead, ← stop, List.take_succ_cons]
      exact List.not_mem_cons_of_ne_of_not_mem notLineFeed.symm (not_mem_take_distance rfl rest)
    rw [next, ok_bind, stop, Nat.add_assoc, Nat.add_comm 1, skipTo_eq short stands inside oneLine]
    rfl

theorem scanString_eq (entered : c.before ≠ []) (quote : UInt8) :
    scanString text b c.position quote =
      .ok ((c.advance 1).position, Lexer.quotedNext quote c.before.head? b) := by
  obtain ⟨previous, far, before⟩ := List.exists_cons_of_ne_nil entered
  rw [scanString, endsValue_eq stands before, ok_bind, advance_eq short stands ahead]
  rfl

theorem scanTemplate_eq {depth : Nat} (few : depth + 1 < 0x100000000) :
    scanTemplate text b c.position depth =
      let passed : Nat × Mode :=
        if b = Byte.dollar && rest.head? == some Byte.openBrace then (2, .template (depth + 1))
        else (1, Lexer.templateNext depth b)
      .ok ((c.advance passed.1).position, passed.2) := by
  have passed := advance_eq short stands ahead
  simp only [scanTemplate, get_second stands ahead, Lexer.templateNext, passed, word_eq few,
    ok_bind]
  by_cases opens : (b = Byte.dollar && rest.head? == some Byte.openBrace) = true
  · obtain ⟨rfl, tail, rfl⟩ := and_head?_eq_some.mp opens
    have other : (decide (Byte.dollar = Byte.backquote) && decide (depth = 0)) = false := rfl
    rw [other, if_neg Bool.false_ne_true, if_pos opens, if_pos opens,
      advancePair_eq short stands ahead (by decide) (by decide)]
    rfl
  · rw [if_neg opens, if_neg opens]
    split
    · rfl
    · split
      · rfl
      · split
        · rename_i closes
          have enough : 1 ≤ depth := by
            rw [Bool.and_eq_true, decide_eq_true_iff, decide_eq_true_iff] at closes
            exact closes.2
          rw [less_eq enough]
          rfl
        · rfl

end Agreement

section Comments

/-- Whether a comment opens is decided by two bytes. -/
theorem commentOpened?_two (options : ScanOptions) (mode : Mode) (b : UInt8) (rest : Text) :
    mode.commentOpened? options (b :: rest.head?.toList) =
      mode.commentOpened? options (b :: rest) := by
  cases rest <;> rfl

end Comments

end Checked

namespace Scanner

open Checked

variable {options : ScanOptions} {text : Text} {s : Scanner}

/-- A step by index meets no fault, and does what the scanner does. -/
theorem step_eq (short : text.length ≤ longest) (stands : s.lexer.cursor.StandsIn text)
    (sized : s.Sized) (ahead : s.ahead ≠ []) :
    Checked.step options text s.place = .ok ((s.step options).1.place, (s.step options).2) := by
  obtain ⟨⟨c, mode⟩, n⟩ := s
  obtain ⟨b, rest, front⟩ := List.exists_cons_of_ne_nil ahead
  change c.after = b :: rest at front
  change c.StandsIn text at stands
  have passed := advance_eq short stands front
  have few (count : Nat) (small : count ≤ c.position.offset) : count + 1 < 0x100000000 := by
    have room := stands.offset_add
    rw [front, List.length_cons] at room
    unfold longest at short
    omega
  -- Every mode but code finds nothing, and what it passes is its stride.
  have quiet {length : Nat} {mode' : Mode}
      (stride : (⟨c, mode⟩ : Lexer).stride options = ⟨length, mode', none⟩) :
      (((⟨⟨c, mode⟩, n⟩ : Scanner).step options).1.place,
        ((⟨⟨c, mode⟩, n⟩ : Scanner).step options).2) =
        pass n ((c.advance length).position, mode') := by
    rw [step_of_quiet stride]
    rfl
  have read : (⟨c, mode⟩ : Lexer).stride options =
      Stride.read options mode c.before.head? (classify c.before) (b :: rest) := by
    rw [Lexer.stride, front]
  change Checked.step options text ⟨c.position, mode, n⟩ = _
  rw [Checked.step, byteAt_ahead stands front, ok_bind]
  by_cases lineEnds : b = Byte.lineFeed
  · subst lineEnds
    rw [if_pos rfl, passed, quiet (read.trans rfl)]
    rfl
  simp only [if_neg lineEnds, get_second stands front, commentOpened?_two]
  simp only [Stride.read, if_neg lineEnds] at read
  cases opened : mode.commentOpened? options (b :: rest) with
  | some comment =>
      rw [opened] at read
      obtain ⟨_, tail, _, ⟨pair, _⟩ | ⟨pair, _⟩⟩ := Mode.commentOpened?_eq_some opened
      all_goals
        simp only [advancePair_eq short stands (front.trans pair) (by decide) (by decide),
          quiet read]
        rfl
  | none =>
      rw [opened] at read
      cases mode with
      | lineComment host =>
          simp only [skipLineComment_eq short stands front, quiet read]
          rfl
      | blockComment host =>
          simp only [scanBlockComment_eq short stands front host lineEnds]
          by_cases ends : (b = Byte.asterisk && rest.head? == some Byte.slash) = true
          · simp only [if_pos ends] at read ⊢
            rw [quiet read]
            rfl
          · simp only [if_neg ends] at read ⊢
            rw [quiet read]
            rfl
      | quoted quote =>
          have before : c.before ≠ [] := by
            have behind : 0 < c.position.offset := sized.entered Mode.noConfusion
            rw [stands.offset_eq] at behind
            exact List.ne_nil_of_length_pos behind
          simp only [scanString_eq short stands front before, quiet read]
          rfl
      | template depth =>
          simp only [scanTemplate_eq short stands front (few depth sized.braces)]
          by_cases opens : (b = Byte.dollar && rest.head? == some Byte.openBrace) = true
          · simp only [if_pos opens] at read ⊢
            rw [quiet read]
            rfl
          · simp only [if_neg opens] at read ⊢
            rw [quiet read]
            rfl
      | code =>
          by_cases bracket : b = Byte.lessThan
          · have tagged : (⟨c, .code⟩ : Lexer).step options =
                (⟨(Lexer.angleBracket options c).1, .code⟩, (Lexer.angleBracket options c).2) := by
              simp only [Lexer.step, front, if_neg lineEnds, opened, if_pos bracket]
            simp only [if_pos bracket, Scanner.step, tagged,
              angleBracket_eq (few _ sized.tagsChecked) short stands front]
            rfl
          · simp only [if_neg bracket] at read ⊢
            rw [passed, quiet read]
            rfl

theorem Visits.ahead_of_offset (visits : Visits options text s)
    (within : s.offset < text.length) : s.ahead ≠ [] := by
  intro ended
  have room := visits.standsIn.offset_add
  change s.offset + s.ahead.length = text.length at room
  rw [ended, List.length_nil] at room
  omega

theorem Visits.countable_step (short : text.length ≤ longest) (visits : Visits options text s)
    (ahead : s.ahead ≠ []) : (s.step options).1.Countable := by
  obtain ⟨offset, line, column⟩ := position_fits short visits.standsIn_step
  have sized := visits.sized_step ahead visits.sized
  exact ⟨offset, line, column, sized.braces.trans_lt offset, sized.tagsChecked.trans_lt offset⟩

/-- From any place of the run the loop by index comes to what the run comes to, and makes as
many steps as there are bytes left at most. -/
theorem Visits.run_eq (short : text.length ≤ longest) (visits : Visits options text s)
    {steps : Nat} (enough : s.ahead.length ≤ steps) :
    Checked.run options text steps s.place = .ok (s.run options) := by
  refine loop_eq place (Visits options text) (·.ahead.length) (run options) ?_ visits
    (Nat.lt_succ_of_le enough)
  intro s visits
  have room := visits.standsIn.offset_add
  change s.offset + s.ahead.length = text.length at room
  by_cases within : s.offset < text.length
  · have ahead := visits.ahead_of_offset within
    have stepped : Checked.step options text s.place = _ :=
      step_eq short visits.standsIn visits.sized ahead
    have turn : runTurn options text s.place = _ := if_pos within
    rw [turn, stepped, ok_bind]
    cases met : s.step options with
    | mk next defect =>
        cases defect with
        | none =>
            have steps : Steps options s next := ⟨ahead, met⟩
            exact .inr ⟨next, rfl, visits.tail steps, steps.ahead_length,
              (run_of_step ahead met).symm⟩
        | some defect =>
            rw [run_of_defect ahead met]
            exact .inl rfl
  · have ended : s.ahead = [] := List.eq_nil_of_length_eq_zero (by omega)
    have turn : runTurn options text s.place = _ := if_neg within
    rw [turn, run_of_end ended]
    exact .inl rfl

/-- On a text of at most `2 ^ 32 - 2` bytes, whatever they are, no step of a scan reads
outside of the text, goes below zero, counts beyond 32 bits or jumps over a line feed. Each
passes a byte at least and stays in the text, so there are no more steps than bytes. -/
theorem scan_meets_no_fault (options : ScanOptions) {text : Text}
    (short : text.length ≤ longest) :
    (∀ s, Visits options text s → s.offset < text.length →
      Checked.step options text s.place = .ok ((s.step options).1.place, (s.step options).2) ∧
        (s.step options).1.Countable ∧
        s.offset < (s.step options).1.offset ∧ (s.step options).1.offset ≤ text.length) ∧
      Checked.run options text text.length (start options text).place =
        .ok (scan options text) := by
  refine ⟨?_, ?_⟩
  · intro s visits within
    have ahead := visits.ahead_of_offset within
    exact ⟨step_eq short visits.standsIn visits.sized ahead,
      visits.countable_step short ahead, visits.step_advances ahead⟩
  · have begun : Visits options text (start options text) := .refl
    rw [← run_start]
    exact begun.run_eq short (Nat.le_refl _)

/-- A string that is left open, an interpolation in a template literal and a type among the
tags. -/
theorem scan_meets_no_fault_unclosed :
    let text : Text := "<a b=\"\x7b\">`$\x7bx as <T>\x7d`</a>\n<br/>'".toUTF8.toList
    text.length ≤ longest ∧ (start {} text).offset < text.length ∧
      Checked.step {} text (start {} text).place =
        .ok (((start {} text).step {}).1.place, ((start {} text).step {}).2) ∧
      Checked.run {} text text.length (start {} text).place = .ok (scan {} text) := by
  intro text
  have short : text.length ≤ longest := by decide +kernel
  have within : (start {} text).offset < text.length := by decide +kernel
  obtain ⟨steps, runs⟩ := scan_meets_no_fault {} short
  exact ⟨short, within, (steps _ .refl within).1, runs⟩

end Scanner

end TagCheck
