/-
# The lexer

One left-to-right pass over a text.  At every byte one mode is active: code,
the inside of a string, of a template literal, or of a comment.  Only code looks
at `<`.  The lexer finds the tags of a text and says nothing about whether they
nest; `Nesting` decides that from the lexemes.

A comment may open inside a template literal and then returns to it.  Inside the
interpolations of a template literal braces are counted, and nothing else.

Every step passes at least one byte (`step_shortens`), so the pass ends.
-/

import TagCheck.Markup.Cursor
import TagCheck.Markup.Lexeme
import TagCheck.Markup.Options
import TagCheck.Markup.TagName

namespace TagCheck

/-- Where a comment can open, and where the text goes on once it ends. -/
inductive Host where
  | code
  /-- A template literal, with the number of braces open in its interpolation; none
  are open in its text. -/
  | template (depth : Nat)
  deriving DecidableEq, Repr

/-- The lexical context of a byte. -/
inductive Mode where
  | code
  | template (depth : Nat)
  /-- A string literal with its quote. -/
  | quoted (quote : UInt8)
  | lineComment (host : Host)
  | blockComment (host : Host)
  deriving DecidableEq, Repr

def Host.mode : Host → Mode
  | .code => .code
  | .template depth => .template depth

namespace Mode

/-- A line feed ends a line comment and nothing else. -/
def afterLine : Mode → Mode
  | lineComment host => host.mode
  | mode => mode

/-- The host of a comment that opens in this mode, if one can. -/
def commentHost? (options : ScanOptions) : Mode → Option Host
  | code => some .code
  | template depth =>
      if depth = 0 && !options.commentsInTemplateText then none else some (.template depth)
  | _ => none

/-- The mode that the comment opener at the front of `ahead` leads to, if there is
one. -/
def commentOpened? (options : ScanOptions) (mode : Mode) (ahead : Text) : Option Mode :=
  match ahead with
  | first :: second :: _ =>
      if first = Byte.slash then
        if second = Byte.slash then (mode.commentHost? options).map lineComment
        else if second = Byte.asterisk then (mode.commentHost? options).map blockComment
        else none
      else none
  | _ => none

end Mode

/-- How far it is to the first byte of the kind sought, or to the end. -/
def distance (sought : UInt8 → Bool) (text : Text) : Nat := text.findIdx sought

/-- How many bytes a stretch of type arguments has left when `depth` brackets are
open: up to the bracket that closes the outermost one, or to the end. -/
def typeArgumentsLength (depth : Nat) (passed : Nat) : Text → Nat
  | [] => passed
  | b :: rest =>
      let open' := if b = Byte.lessThan then depth + 1
        else if b = Byte.greaterThan then depth - 1 else depth
      if open' = 0 then passed + 1 else typeArgumentsLength open' (passed + 1) rest

/-- What the rest of an opening tag consists of. -/
structure Attributes where
  /-- Its length, the closing bracket included. -/
  length : Nat
  /-- Whether it ends with `/>`. -/
  selfClosing : Bool
  deriving DecidableEq, Repr

/-- Find the end of an opening tag.  Quoted values and braced expressions are
passed over, so a bracket inside them does not end the tag.  `previous` is the byte
just passed: a quote right after a backslash does not end a value. -/
def attributes (previous : Option UInt8) (quote : Option UInt8) (depth : Nat) (passed : Nat) :
    Text → Attributes
  | [] => ⟨passed, false⟩
  | b :: rest =>
      match quote with
      | some q =>
          if b = q && previous != some Byte.backslash then
            attributes (some b) none depth (passed + 1) rest
          else attributes (some b) quote depth (passed + 1) rest
      | none =>
          if Byte.isQuote b then attributes (some b) (some b) depth (passed + 1) rest
          else if b = Byte.openBrace then attributes (some b) none (depth + 1) (passed + 1) rest
          else if b = Byte.closeBrace then attributes (some b) none (depth - 1) (passed + 1) rest
          else if depth > 0 then attributes (some b) none depth (passed + 1) rest
          else if b = Byte.slash && rest.head? == some Byte.greaterThan then ⟨passed + 2, true⟩
          else if b = Byte.greaterThan then ⟨passed + 1, false⟩
          else attributes (some b) none depth (passed + 1) rest

/-- Bytes after which a `<` is an operator or stands alone. -/
def followsOperator (b : UInt8) : Bool :=
  b == Byte.space || b == Byte.tab || b == Byte.lineFeed || b == Byte.equals

/-- The lexer between two steps. -/
structure Lexer where
  cursor : Cursor
  mode : Mode
  deriving DecidableEq, Repr

namespace Lexer

/-- The lexer at the start of a text. -/
def ofText (text : Text) : Lexer := ⟨Cursor.ofText text, .code⟩

/-- Read a closing tag whose name starts at the cursor. -/
def closingTag (options : ScanOptions) (site : Position) (c : Cursor) :
    Cursor × Option Lexeme :=
  let nameBytes := TagName.bytes options.maxNameLength c.after
  if nameBytes.isEmpty then (c, none)
  else
    let named := c.advance nameBytes.length
    let closed := named.advance (distance (· == Byte.greaterThan) named.after + 1)
    (closed, some (.tag ⟨.closing, Byte.spell nameBytes, site, closed.position.offset⟩))

/-- Read an opening tag whose name starts at the cursor. -/
def openingTag (options : ScanOptions) (site : Position) (c : Cursor) :
    Cursor × Option Lexeme :=
  let nameBytes := TagName.bytes options.maxNameLength c.after
  if nameBytes.isEmpty then (c, none)
  else
    let name := Byte.spell nameBytes
    let named := c.advance nameBytes.length
    let rest := attributes named.before.head? none 0 0 named.after
    let closed := named.advance rest.length
    let form := if rest.selfClosing || TagName.isVoid name then TagForm.single else .opening
    (closed, some (.tag ⟨form, name, site, closed.position.offset⟩))

/-- Read what a `<` at `site` begins, from the byte after it or, if that is the
slash of a closing tag, after the slash.  `before` is the text up to the bracket. -/
def tagBody (options : ScanOptions) (site : Position) (before : List UInt8) (closing : Bool)
    (c : Cursor) : Cursor × Option Lexeme :=
  match c.after with
  | [] => (c, none)
  | first :: _ =>
      if first = Byte.greaterThan then
        let form := if closing then TagForm.closing else .opening
        (c.next, some (.tag ⟨form, "", site, c.next.position.offset⟩))
      else if !TagName.isStart first then (c, none)
      else if closing then closingTag options site c
      else
        match classify before with
        | some rule =>
            (c.advance (typeArgumentsLength 1 0 c.after), some (.typeBrackets site rule))
        | none => openingTag options site c

/-- Read what the `<` at the cursor begins.  If that is no tag, little more than
the bracket is passed. -/
def angleBracket (options : ScanOptions) (c : Cursor) : Cursor × Option Lexeme :=
  let bracketed := c.next
  match bracketed.after with
  | [] => (bracketed, none)
  | b :: _ =>
      if followsOperator b then (bracketed, none)
      else if b = Byte.slash then tagBody options c.position c.before true bracketed.next
      else tagBody options c.position c.before false bracketed

/-- The mode after a byte inside a string. -/
def quotedNext (quote : UInt8) (previous : Option UInt8) (b : UInt8) : Mode :=
  if b = quote && previous != some Byte.backslash then .code else .quoted quote

/-- The mode after a byte inside a template literal, when the byte stands alone. -/
def templateNext (depth : Nat) (b : UInt8) : Mode :=
  if b = Byte.backquote && depth = 0 then .code
  else if b = Byte.openBrace && depth > 0 then .template (depth + 1)
  else if b = Byte.closeBrace && depth > 0 then .template (depth - 1)
  else .template depth

/-- The mode after a byte of code other than `<`. -/
def codeNext (b : UInt8) : Mode :=
  if Byte.isQuote b then .quoted b
  else if b = Byte.backquote then .template 0
  else .code

/-- Pass the next byte, or the next few, and tell what they began. -/
def step (options : ScanOptions) (l : Lexer) : Lexer × Option Lexeme :=
  let c := l.cursor
  match c.after with
  | [] => (l, none)
  | b :: rest =>
      if b = Byte.lineFeed then (⟨c.next, l.mode.afterLine⟩, none)
      else
        match l.mode.commentOpened? options c.after with
        | some comment => (⟨c.skipPair, comment⟩, none)
        | none =>
            match l.mode with
            | .lineComment _ =>
                (⟨c.jump (distance (· == Byte.lineFeed) c.after), l.mode⟩, none)
            | .blockComment host =>
                if b = Byte.asterisk && rest.head? == some Byte.slash then
                  (⟨c.skipPair, host.mode⟩, none)
                else
                  let stop := distance (fun b => b == Byte.asterisk || b == Byte.lineFeed) rest
                  (⟨c.jump (stop + 1), l.mode⟩, none)
            | .quoted quote => (⟨c.next, quotedNext quote c.before.head? b⟩, none)
            | .template depth =>
                if b = Byte.dollar && rest.head? == some Byte.openBrace then
                  (⟨c.skipPair, .template (depth + 1)⟩, none)
                else (⟨c.next, templateNext depth b⟩, none)
            | .code =>
                if b = Byte.lessThan then
                  let (passed, lexeme) := angleBracket options c
                  (⟨passed, .code⟩, lexeme)
                else (⟨c.next, codeNext b⟩, none)

theorem closingTag_shortens (options : ScanOptions) (site : Position) (c : Cursor) :
    (closingTag options site c).1.after.length ≤ c.after.length := by
  simp only [closingTag]
  split
  · exact Nat.le_refl _
  · rw [Cursor.advance_after, Cursor.advance_after, List.drop_drop, List.length_drop]
    exact Nat.sub_le _ _

theorem openingTag_shortens (options : ScanOptions) (site : Position) (c : Cursor) :
    (openingTag options site c).1.after.length ≤ c.after.length := by
  simp only [openingTag]
  split
  · exact Nat.le_refl _
  · rw [Cursor.advance_after, Cursor.advance_after, List.drop_drop, List.length_drop]
    exact Nat.sub_le _ _

theorem tagBody_shortens (options : ScanOptions) (site : Position) (before : List UInt8)
    (closing : Bool) (c : Cursor) :
    (tagBody options site before closing c).1.after.length ≤ c.after.length := by
  simp only [tagBody]
  split
  · exact Nat.le_refl _
  · split
    · simp
    · split
      · exact Nat.le_refl _
      · split
        · exact closingTag_shortens ..
        · split
          · simp
          · exact openingTag_shortens ..

/-- Reading a bracket passes the bracket at least. -/
theorem angleBracket_shortens (options : ScanOptions) {c : Cursor} (ahead : c.after ≠ []) :
    (angleBracket options c).1.after.length < c.after.length := by
  have bracketed : c.next.after.length < c.after.length := by
    have := List.length_pos_iff.mpr ahead
    rw [Cursor.next_after, List.length_tail]
    omega
  simp only [angleBracket]
  split
  · exact bracketed
  · split
    · exact bracketed
    · split
      · have passed := tagBody_shortens options c.position c.before true c.next.next
        have twice : c.next.next.after.length ≤ c.next.after.length := by simp
        omega
      · have passed := tagBody_shortens options c.position c.before false c.next
        omega

theorem commentOpened?_pair {options : ScanOptions} {mode comment : Mode} {ahead : Text}
    (opened : mode.commentOpened? options ahead = some comment) :
    ∃ first second rest, ahead = first :: second :: rest := by
  unfold Mode.commentOpened? at opened
  split at opened
  · exact ⟨_, _, _, rfl⟩
  · contradiction

theorem skipPair_shortens {c : Cursor} {first second : UInt8} {rest : Text}
    (ahead : c.after = first :: second :: rest) :
    c.skipPair.after.length < c.after.length := by
  rw [Cursor.skipPair_after ahead, ahead, List.length_cons, List.length_cons]
  omega

/-- Every step short of the end of the text passes at least one byte. -/
theorem step_shortens (options : ScanOptions) {l : Lexer} (ahead : l.cursor.after ≠ []) :
    (l.step options).1.cursor.after.length < l.cursor.after.length := by
  obtain ⟨c, mode⟩ := l
  obtain ⟨b, rest, front⟩ := List.exists_cons_of_ne_nil ahead
  simp only at front
  have passed : c.next.after.length < (b :: rest).length := by simp [front]
  have jumped (count : Nat) (positive : 0 < count) :
      (c.jump count).after.length < (b :: rest).length := by
    rw [Cursor.jump_after, List.length_drop, front, List.length_cons]
    omega
  have paired {first second : UInt8} {tail : Text} (pair : b :: rest = first :: second :: tail) :
      c.skipPair.after.length < (b :: rest).length := by
    rw [← front]
    exact skipPair_shortens (front.trans pair)
  have followed {second : UInt8} (next : rest.head? = some second) :
      c.skipPair.after.length < (b :: rest).length := by
    obtain ⟨tail, rfl⟩ := List.head?_eq_some_iff.mp next
    exact paired rfl
  have bracketed : (angleBracket options c).1.after.length < (b :: rest).length := by
    rw [← front]
    exact angleBracket_shortens options ahead
  simp only [step, front]
  split
  · exact passed
  · rename_i notLineFeed
    split
    · rename_i comment opened
      obtain ⟨first, second, tail, pair⟩ := commentOpened?_pair opened
      exact paired pair
    · split
      · apply jumped
        simp [distance, List.findIdx_cons, beq_eq_false_iff_ne.mpr notLineFeed]
      · split
        · exact @followed Byte.slash (by simp_all)
        · exact jumped _ (Nat.succ_pos _)
      · exact passed
      · split
        · exact @followed Byte.openBrace (by simp_all)
        · exact passed
      · split
        · exact bracketed
        · exact passed

/-- The lexemes from here on, put after those already `found` (latest first). -/
def lexemesOnto (options : ScanOptions) (l : Lexer) (found : List Lexeme) : List Lexeme :=
  if _ended : l.cursor.after = [] then found.reverse
  else
    match _reached : l.step options with
    | (next, none) => lexemesOnto options next found
    | (next, some lexeme) => lexemesOnto options next (lexeme :: found)
termination_by l.cursor.after.length
decreasing_by
  all_goals
    have := step_shortens options _ended
    rw [_reached] at this
    exact this

/-- The lexemes of a text, in reading order. -/
def lexemes (options : ScanOptions) (text : Text) : List Lexeme :=
  lexemesOnto options (ofText text) []

end Lexer

end TagCheck
