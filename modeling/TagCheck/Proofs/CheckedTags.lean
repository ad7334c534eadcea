/-
# Reading a tag by index

What a bracket begins is read in loops: over a name, over type arguments, up to the end of
a closing tag and over the rest of an opening tag. Each looks at the byte that the position
stands at, and goes on from the next. Here they are written over positions, with checked
accesses; `angleBracket_eq` says that they meet no fault and lead where the lexer goes.

Every loop passes a byte in each turn but the last, so as many turns as there are bytes
left, and one more, are enough. The counts of open brackets and braces stay below the
offset, since each of them was a byte.
-/

import TagCheck.Markup.Nesting
import TagCheck.Proofs.CheckedLookback
import TagCheck.Proofs.Searches

namespace TagCheck.Checked

/-! ## Loops -/

section Turns

variable (limit : Nat) (text : Text)

/-- Pass one byte of a name. -/
def nameTurn : Position × List UInt8 →
    Checked (Turn (Position × List UInt8) (Position × List UInt8))
  | (p, name) =>
      match text[p.offset]? with
      | none => pure (.done (p, name))
      | some b =>
          if !TagName.isPart b || limit ≤ name.length then pure (.done (p, name))
          else do
            let p ← advance text p
            pure (.again (p, name ++ [b]))

/-- Pass the name at a position. -/
def readName (p : Position) : Checked (Position × List UInt8) :=
  loop (nameTurn limit text) (text.length + 1) (p, [])

/-- How many brackets are open after a byte. -/
def countBracket (depth : Nat) (b : UInt8) : Checked Nat :=
  if b = Byte.lessThan then word (depth + 1)
  else if b = Byte.greaterThan then less depth 1
  else pure depth

/-- Pass one byte of type arguments. -/
def typeArgumentsTurn : Position × Nat → Checked (Turn (Position × Nat) Position)
  | (p, depth) =>
      match text[p.offset]? with
      | none => pure (.done p)
      | some b => do
          let depth ← countBracket depth b
          let p ← advance text p
          if depth = 0 then pure (.done p) else pure (.again (p, depth))

/-- Pass type arguments, from the byte after their bracket. -/
def skipTypeArguments (p : Position) : Checked Position :=
  loop (typeArgumentsTurn text) (text.length + 1) (p, 1)

variable (target : UInt8)

def pastTurn (p : Position) : Checked (Turn Position Position) :=
  match text[p.offset]? with
  | none => pure (.done p)
  | some b => do
      let p ← advance text p
      if b = target then pure (.done p) else pure (.again p)

/-- Pass everything up to the next `target`, and this too. -/
def skipPast (p : Position) : Checked Position := loop (pastTurn text target) (text.length + 1) p

/-- Where the rest of an opening tag has been read to. -/
structure Reading where
  position : Position
  /-- The quote of the value that is being passed. -/
  quote : Option UInt8
  /-- How many braces are open. -/
  depth : Nat

/-- Whether the byte at a position ends a value that began with `quote`. -/
def endsValue (quote b : UInt8) (p : Position) : Checked Bool :=
  if b = quote then do
    let previous ← byteBefore text p.offset
    pure (previous != Byte.backslash)
  else pure false

/-- Pass one byte of the rest of an opening tag, or its end. -/
def attributesTurn (r : Reading) : Checked (Turn Reading (Position × Bool)) :=
  let p := r.position
  match text[p.offset]? with
  | none => pure (.done (p, false))
  | some b =>
      match r.quote with
      | some quote => do
          let ends ← endsValue text quote b p
          let p ← advance text p
          pure (.again ⟨p, if ends then none else some quote, r.depth⟩)
      | none =>
          if Byte.isQuote b then do
            let p ← advance text p
            pure (.again ⟨p, some b, r.depth⟩)
          else if b = Byte.openBrace then do
            let depth ← word (r.depth + 1)
            let p ← advance text p
            pure (.again ⟨p, none, depth⟩)
          else if b = Byte.closeBrace then do
            let p ← advance text p
            pure (.again ⟨p, none, r.depth - 1⟩)
          else if r.depth > 0 then do
            let p ← advance text p
            pure (.again ⟨p, none, r.depth⟩)
          else if b = Byte.slash && text[p.offset + 1]? == some Byte.greaterThan then do
            let p ← advancePair p
            pure (.done (p, true))
          else if b = Byte.greaterThan then do
            let p ← advance text p
            pure (.done (p, false))
          else do
            let p ← advance text p
            pure (.again ⟨p, none, r.depth⟩)

/-- Pass the rest of an opening tag, and tell whether it ends with a slash. -/
def scanAttributes (p : Position) : Checked (Position × Bool) :=
  loop (attributesTurn text) (text.length + 1) ⟨p, none, 0⟩

end Turns

section Loops

variable {text : Text} {c : Cursor} {b : UInt8} {rest : Text}

theorem next_after (ahead : c.after = b :: rest) : c.next.after = rest := by
  rw [Cursor.next_after, ahead, List.tail_cons]

theorem next_offset (ahead : c.after = b :: rest) :
    c.next.position.offset = c.position.offset + 1 := by
  rw [Cursor.next, ahead, Position.next_offset]

/-- The law of loops for those that pass one byte in each turn but the last. Beside the
cursor they keep a state of type `α`. -/
theorem walk_eq {α σ ρ : Type} {turn : σ → Checked (Turn σ ρ)} (view : Cursor → α → σ)
    (invariant : Cursor → α → Prop) (result : Cursor → α → ρ)
    (preserved : ∀ c a, c.StandsIn text → invariant c a →
      turn (view c a) = .ok (.done (result c a)) ∨
        ∃ b rest a', c.after = b :: rest ∧ turn (view c a) = .ok (.again (view c.next a')) ∧
          invariant c.next a' ∧ result c.next a' = result c a)
    (stands : c.StandsIn text) {a : α} (holds : invariant c a) :
    loop turn (text.length + 1) (view c a) = .ok (result c a) := by
  have enough : c.after.length < text.length + 1 := by
    have room := stands.offset_add
    omega
  refine loop_eq (fun (c, a) => view c a) (fun (c, a) => c.StandsIn text ∧ invariant c a)
    (fun (c, _) => c.after.length) (fun (c, a) => result c a) ?_ (a := (c, a)) ⟨stands, holds⟩
    enough
  rintro ⟨c, a⟩ ⟨stands, holds⟩
  rcases preserved c a stands holds with ends | ⟨b, rest, a', ahead, goes, still, same⟩
  · exact .inl ends
  · refine .inr ⟨(c.next, a'), goes, ⟨stands.advance 1, still⟩, ?_, same⟩
    simp only [next_after ahead, ahead, List.length_cons, Nat.lt_succ_self]

theorem endsValue_eq (stands : c.StandsIn text) {previous : UInt8} {far : List UInt8}
    (passed : c.before = previous :: far) (quote b : UInt8) :
    endsValue text quote b c.position =
      .ok (b = quote && c.before.head? != some Byte.backslash) := by
  rw [endsValue, byteBefore_eq stands passed, passed]
  by_cases same : b = quote
  · rw [if_pos same, decide_eq_true same]
    rfl
  · rw [if_neg same, decide_eq_false same]
    rfl

variable (short : text.length ≤ longest)

include short

/-- A name is read byte by byte. -/
theorem readName_eq (limit : Nat) (stands : c.StandsIn text) :
    readName limit text c.position =
      .ok ((c.advance (TagName.bytes limit c.after).length).position,
        TagName.bytes limit c.after) := by
  let left (c : Cursor) (name : List UInt8) : Text :=
    TagName.bytes (limit - name.length) c.after
  refine walk_eq (fun c name => (c.position, name)) (fun _ _ => True)
    (fun c name => ((c.advance (left c name).length).position, name ++ left c name)) ?_ stands
    (a := []) trivial
  intro c name stands _
  cases ahead : c.after with
  | nil =>
      have nothing : left c name = [] := by
        simp only [left, ahead, TagName.bytes, List.takeWhile_nil, List.take_nil]
      refine .inl ?_
      rw [nothing, List.append_nil, nameTurn, get_ahead stands, ahead]
      rfl
  | cons b rest =>
      have passed := advance_eq short stands ahead
      by_cases full : limit ≤ name.length
      · have nothing : left c name = [] := by
          simp only [left, Nat.sub_eq_zero_of_le full]
          exact List.take_zero
        refine .inl ?_
        rw [nothing, List.append_nil]
        simp only [nameTurn, get_ahead stands, ahead, List.head?_cons, full, decide_true,
          Bool.or_true, if_true]
        rfl
      · have more : left c name =
            if TagName.isPart b then b :: left c.next (name ++ [b]) else [] := by
          have room : limit - name.length = limit - (name ++ [b]).length + 1 := by
            rw [List.length_append, List.length_singleton]
            omega
          simp only [left, ahead, room, bytes_cons, next_after ahead]
        rw [more]
        simp only [nameTurn, get_ahead stands, ahead, List.head?_cons, full, decide_false,
          Bool.or_false]
        cases part : TagName.isPart b with
        | false =>
            refine .inl ?_
            rw [if_neg Bool.false_ne_true, List.append_nil]
            rfl
        | true =>
            refine .inr ⟨b, rest, name ++ [b], rfl, ?_, trivial, ?_⟩
            · simp only [Bool.not_true, Bool.false_eq_true, if_false, passed, ok_bind]
              rfl
            · rw [if_pos rfl, List.append_assoc]
              rfl

theorem skipTypeArguments_eq (stands : c.StandsIn text) (entered : 0 < c.position.offset) :
    skipTypeArguments text c.position =
      .ok (c.advance (typeArgumentsLength 1 0 c.after)).position := by
  refine walk_eq (fun c depth => (c.position, depth))
    (fun c depth => 0 < depth ∧ depth ≤ c.position.offset)
    (fun c depth => (c.advance (typeArgumentsLength depth 0 c.after)).position) ?_ stands
    (a := 1) ⟨Nat.one_pos, entered⟩
  rintro c depth stands ⟨opened, fewer⟩
  cases ahead : c.after with
  | nil =>
      refine .inl ?_
      rw [typeArgumentsTurn, get_ahead stands, ahead]
      rfl
  | cons b rest =>
      have passed := advance_eq short stands ahead
      have room := stands.offset_add
      rw [ahead, List.length_cons] at room
      unfold longest at short
      have offset := next_offset ahead
      have brackets : countBracket depth b = .ok (bracketsOpen depth b) := by
        unfold countBracket bracketsOpen
        split
        · exact word_eq (by omega)
        · split
          · exact less_eq opened
          · rfl
      have more : bracketsOpen depth b ≤ depth + 1 := by
        unfold bracketsOpen
        split
        · exact Nat.le_refl _
        · split <;> omega
      simp only [typeArgumentsTurn, get_ahead stands, ahead, List.head?_cons, brackets, ok_bind,
        passed, typeArgumentsLength_cons]
      by_cases closed : bracketsOpen depth b = 0
      · rw [if_pos closed, if_pos closed]
        exact .inl rfl
      · rw [if_neg closed, if_neg closed]
        refine .inr ⟨b, rest, bracketsOpen depth b, rfl, rfl, ⟨Nat.pos_of_ne_zero closed, by omega⟩,
          ?_⟩
        rw [next_after ahead, typeArgumentsLength_passed _ (0 + 1), Nat.add_comm]
        rfl

theorem skipPast_eq (target : UInt8) (stands : c.StandsIn text) :
    skipPast text target c.position =
      .ok (c.advance (distance (· == target) c.after + 1)).position := by
  refine walk_eq (fun c (_ : Unit) => c.position) (fun _ _ => True)
    (fun c _ => (c.advance (distance (· == target) c.after + 1)).position) ?_ stands
    (a := ()) trivial
  intro c _ stands _
  cases ahead : c.after with
  | nil =>
      refine .inl ?_
      have stays : c.advance 1 = c := by rw [Cursor.advance_one, Cursor.next, ahead]
      rw [pastTurn, get_ahead stands, ahead]
      change _ = Except.ok (Turn.done (c.advance 1).position)
      rw [stays]
      rfl
  | cons b rest =>
      have passed := advance_eq short stands ahead
      simp only [pastTurn, get_ahead stands, ahead, List.head?_cons, passed, ok_bind]
      by_cases found : b = target
      · refine .inl ?_
        simp only [distance, List.findIdx_cons, found, beq_self_eq_true, cond_true, if_true]
        rfl
      · refine .inr ⟨b, rest, (), rfl, ?_, trivial, ?_⟩
        · rw [if_neg found]
          rfl
        · simp only [distance, List.findIdx_cons, beq_eq_false_iff_ne.mpr found, cond_false,
            next_after ahead]
          rfl

/-- A turn passes the end of the tag, or one byte more. -/
theorem attributesTurn_eq (stands : c.StandsIn text) (entered : c.before ≠ [])
    (ahead : c.after = b :: rest) (quote : Option UInt8) {depth : Nat}
    (few : depth + 1 < 0x100000000) :
    attributesTurn text ⟨c.position, quote, depth⟩ =
      .ok (match tagEnd? depth b rest.head? quote with
        | some ending => .done ((c.advance ending.length).position, ending.selfClosing)
        | none => .again
            ⟨c.next.position, quoteAfter c.before.head? b quote, bracesAfter depth b quote⟩) := by
  have passed := advance_eq short stands ahead
  cases quote with
  | some quote =>
      obtain ⟨previous, far, before⟩ := List.exists_cons_of_ne_nil entered
      simp only [attributesTurn, get_ahead stands, ahead, List.head?_cons,
        endsValue_eq stands before, ok_bind, passed]
      rfl
  | none =>
      simp only [attributesTurn, get_ahead stands, get_second stands ahead, ahead,
        List.head?_cons, passed, ok_bind, tagEnd?, quoteAfter, bracesAfter]
      -- Quotes and braces are told apart from the bytes that end a tag.
      by_cases quotes : Byte.isQuote b = true
      · simp [quotes, Byte.ne_of_isQuote quotes]
        rfl
      by_cases opens : b = Byte.openBrace
      · have other : Byte.openBrace ≠ Byte.slash ∧ Byte.openBrace ≠ Byte.greaterThan := by decide
        subst opens
        simp [quotes, other, word_eq few]
      by_cases closes : b = Byte.closeBrace
      · have other : Byte.closeBrace ≠ Byte.slash ∧ Byte.closeBrace ≠ Byte.greaterThan := by decide
        subst closes
        simp [quotes, opens, other]
        rfl
      simp only [if_neg quotes, if_neg opens, if_neg closes]
      split
      · rfl
      · split
        · rename_i slashed
          obtain ⟨rfl, after, rfl⟩ := and_head?_eq_some.mp slashed
          rw [advancePair_eq short stands ahead (by decide) (by decide)]
          rfl
        · split <;> rfl

/-- The rest of an opening tag is read byte by byte. -/
theorem scanAttributes_eq (stands : c.StandsIn text) (entered : c.before ≠ []) :
    scanAttributes text c.position =
      let tail := attributes c.before.head? none 0 0 c.after
      .ok ((c.advance tail.length).position, tail.selfClosing) := by
  let tail (c : Cursor) (a : Option UInt8 × Nat) : Attributes :=
    attributes c.before.head? a.1 a.2 0 c.after
  refine walk_eq (fun c a => Reading.mk c.position a.1 a.2)
    (fun c a => c.before ≠ [] ∧ a.2 ≤ c.position.offset)
    (fun c a => ((c.advance (tail c a).length).position, (tail c a).selfClosing)) ?_ stands
    (a := (none, 0)) ⟨entered, Nat.zero_le _⟩
  rintro c ⟨quote, depth⟩ stands ⟨entered, fewer⟩
  cases ahead : c.after with
  | nil =>
      refine .inl ?_
      simp only [attributesTurn, get_ahead stands, tail, ahead]
      rfl
  | cons b rest =>
      have offset := next_offset ahead
      have room := stands.offset_add
      rw [ahead, List.length_cons] at room
      simp only at fewer
      have few : depth + 1 < 0x100000000 := by
        unfold longest at short
        omega
      have more : bracesAfter depth b quote ≤ depth + 1 := by
        unfold bracesAfter
        split
        · exact Nat.le_succ _
        · split
          · exact Nat.le_refl _
          · split <;> omega
      have entered' : c.next.before = b :: c.before := by rw [Cursor.next, ahead]
      have turn := attributesTurn_eq short stands entered ahead quote few
      have unfolded := attributes_cons c.before.head? quote depth 0 b rest
      rw [← ahead] at unfolded
      change tail c (quote, depth) = _ at unfolded
      simp only [turn, unfolded]
      cases tagEnd? depth b rest.head? quote with
      | some ending =>
          exact .inl (by simp only [Nat.zero_add])
      | none =>
          refine .inr ⟨b, rest, (quoteAfter c.before.head? b quote, bracesAfter depth b quote), rfl,
            rfl, ⟨entered' ▸ List.cons_ne_nil _ _, by simp only; omega⟩, ?_⟩
          simp only [tail, entered', next_after ahead, List.head?_cons]
          rw [attributes_passed _ _ _ (0 + 1), Nat.add_comm]
          rfl

end Loops

/-! ## Tags -/

/-- A scanner between two steps, with its text kept apart. -/
structure Place where
  position : Position
  mode : Mode
  nesting : Nesting
  deriving DecidableEq, Repr

/-- The place in code that a tag leads to, with what became of it. -/
def arrive (p : Position) (met : Nesting × Option Defect) : Place × Option Defect :=
  (⟨p, .code, met.1⟩, met.2)

section Tags

variable (options : ScanOptions) (text : Text) (n : Nesting)

def countTag : Checked Nesting := do
  let checked ← word (n.tagsChecked + 1)
  pure { n with tagsChecked := checked }

/-- The span from a position up to an offset. -/
def spanTo (p : Position) (stop : Nat) : Checked Span := do
  let length ← less (max stop p.offset) p.offset
  pure ⟨p.offset, length⟩

/-- Meet the closing tag from `site` up to `stop`. -/
def closeTag (name : String) (site : Position) (stop : Nat) :
    Checked (Nesting × Option Defect) := do
  let span ← spanTo site stop
  match n.stack.pop name site span with
  | .error defect => pure (n, some defect)
  | .ok (_, stack) =>
      let closed := { n with stack := stack }.report (.popped name site)
      if name.isEmpty then pure (closed, none)
      else do
        let counted ← countTag closed
        pure (counted, none)

variable (site : Position)

/-- Read a closing tag, from its name on. -/
def closingTag (p : Position) : Checked (Place × Option Defect) := do
  let (p, name) ← readName options.maxNameLength text p
  if name.isEmpty then pure (arrive p (n, none))
  else
    let p ← skipPast text Byte.greaterThan p
    let met ← closeTag n (Byte.spell name) site p.offset
    pure (arrive p met)

/-- Read an opening tag, from its name on. -/
def openingTag (p : Position) : Checked (Place × Option Defect) := do
  let (p, name) ← readName options.maxNameLength text p
  if name.isEmpty then pure (arrive p (n, none))
  else
    let (p, slashed) ← scanAttributes text p
    if slashed || TagName.isVoid (Byte.spell name) then do
      let counted ← countTag n
      pure (arrive p (counted, none))
    else pure (arrive p (n.meetFound (some (.tag ⟨.opening, Byte.spell name, site, p.offset⟩))))

/-- Read what the bracket at `site` begins, from the byte after it or after the slash. -/
def tagBody (closing : Bool) (p : Position) : Checked (Place × Option Defect) :=
  match text[p.offset]? with
  | none => pure (arrive p (n, none))
  | some first =>
      if first = Byte.greaterThan then do
        let p ← advance text p
        if closing then do
          let met ← closeTag n "" site p.offset
          pure (arrive p met)
        else pure (arrive p (n.meetFound (some (.tag ⟨.opening, "", site, p.offset⟩))))
      else if !TagName.isStart first then pure (arrive p (n, none))
      else if closing then closingTag options text n site p
      else do
        match ← explain text site.offset with
        | some rule => do
            let p ← skipTypeArguments text p
            pure (arrive p (n.report (.typeBrackets site rule.name), none))
        | none => openingTag options text n site p

/-- Read what the bracket at `site` begins. -/
def angleBracket : Checked (Place × Option Defect) := do
  let p ← advance text site
  match text[p.offset]? with
  | none => pure (arrive p (n, none))
  | some b =>
      if followsOperator b then pure (arrive p (n, none))
      else if b = Byte.slash then do
        let p ← advance text p
        tagBody options text n site true p
      else tagBody options text n site false p

end Tags

/-- The place that a lexeme leads to. -/
def meeting (n : Nesting) (read : Cursor × Option Lexeme) : Place × Option Defect :=
  arrive read.1.position (n.meetFound read.2)

section Agreement

variable {options : ScanOptions} {text : Text} {n : Nesting} {c : Cursor}

theorem spanTo_eq (p : Position) (stop : Nat) : spanTo p stop = .ok (p.spanTo stop) := by
  have clipped : max stop p.offset - p.offset = stop - p.offset := by omega
  rw [spanTo, less_eq (Nat.le_max_right _ _), clipped]
  rfl

section Counts

variable (few : n.tagsChecked + 1 < 0x100000000)

include few

theorem countTag_eq : countTag n = .ok n.count := by
  rw [countTag, word_eq few]
  rfl

theorem closeTag_eq (name : String) (site : Position) (stop : Nat) :
    closeTag n name site stop =
      .ok (n.meetFound (some (.tag ⟨.closing, name, site, stop⟩))) := by
  rw [closeTag, spanTo_eq, ok_bind]
  simp only [Nesting.meetFound, Nesting.meet, Nesting.closeTag, Tag.span]
  cases n.stack.pop name site (site.spanTo stop) with
  | error defect => rfl
  | ok popped =>
      simp only
      split
      · rfl
      · have counted := countTag_eq
          (n := Nesting.report ⟨popped.2, n.tagsChecked, n.reported⟩ (.popped name site)) few
        rw [counted]
        rfl

variable (short : text.length ≤ longest) (stands : c.StandsIn text) (site : Position)

include short stands

theorem closingTag_eq :
    closingTag options text n site c.position =
      .ok (meeting n (Lexer.closingTag options site c)) := by
  have named := stands.advance (TagName.bytes options.maxNameLength c.after).length
  rw [closingTag, readName_eq short _ stands, ok_bind, Lexer.closingTag]
  simp only
  split
  · rename_i unnamed
    rw [List.isEmpty_iff.mp unnamed]
    rfl
  · rw [skipPast_eq short _ named, ok_bind, closeTag_eq few]
    rfl

theorem openingTag_eq (entered : c.before ≠ []) :
    openingTag options text n site c.position =
      .ok (meeting n (Lexer.openingTag options site c)) := by
  have named := stands.advance (TagName.bytes options.maxNameLength c.after).length
  have inside : (c.advance (TagName.bytes options.maxNameLength c.after).length).before ≠ [] := by
    rw [Cursor.advance_eq]
    exact List.append_ne_nil_of_right_ne_nil _ entered
  rw [openingTag, readName_eq short _ stands, ok_bind, Lexer.openingTag]
  simp only
  split
  · rename_i unnamed
    rw [List.isEmpty_iff.mp unnamed]
    rfl
  · rw [scanAttributes_eq short named inside, ok_bind]
    simp only
    split
    · rename_i single
      rw [countTag_eq few]
      rfl
    · rename_i opens
      rfl

theorem tagBody_eq {before : List UInt8} (entered : c.before ≠ [])
    (lookback : explain text site.offset = .ok (classify before)) (closing : Bool) :
    tagBody options text n site closing c.position =
      .ok (meeting n (Lexer.tagBody options site before closing c)) := by
  rw [tagBody, get_ahead stands]
  unfold Lexer.tagBody
  cases ahead : c.after with
  | nil => rfl
  | cons first rest =>
      simp only [List.head?_cons]
      split
      · rw [advance_eq short stands ahead, ok_bind]
        cases closing with
        | true =>
            rw [if_pos rfl, closeTag_eq few]
            rfl
        | false => rfl
      · split
        · rfl
        · cases closing with
          | true => exact closingTag_eq few short stands site
          | false =>
              simp only [Bool.false_eq_true, if_false, lookback, ok_bind]
              cases classify before with
              | none => exact openingTag_eq few short stands site entered
              | some rule =>
                  have behind : 0 < c.position.offset := by
                    rw [stands.offset_eq]
                    exact List.length_pos_iff.mpr entered
                  simp only [skipTypeArguments_eq short stands behind, ok_bind, ahead]
                  rfl

/-- Reading a tag by index meets no fault and does what the lexer and the nesting do. -/
theorem angleBracket_eq {b : UInt8} {rest : Text} (ahead : c.after = b :: rest) :
    angleBracket options text n c.position =
      .ok (meeting n (Lexer.angleBracket options c)) := by
  have lookback : explain text c.position.offset = .ok (classify c.before) := by
    have behind := explain_eq c.before c.after
    rwa [← Cursor.text, stands.whole, ← stands.offset_eq] at behind
  have stands' : c.next.StandsIn text := stands.advance 1
  have entered {c : Cursor} (ahead : c.after ≠ []) : c.next.before ≠ [] := by
    obtain ⟨b, rest, front⟩ := List.exists_cons_of_ne_nil ahead
    rw [Cursor.next, front]
    exact List.cons_ne_nil _ _
  have bracketed := entered (ahead ▸ List.cons_ne_nil b rest)
  rw [angleBracket, advance_eq short stands ahead, ok_bind, get_ahead stands']
  simp only [Lexer.angleBracket]
  cases ahead' : c.next.after with
  | nil => rfl
  | cons b rest =>
      simp only [List.head?_cons]
      split
      · rfl
      · split
        · rw [advance_eq short stands' ahead', ok_bind]
          exact tagBody_eq few short (stands'.advance 1) c.position
            (entered (ahead' ▸ List.cons_ne_nil b rest)) lookback true
        · exact tagBody_eq few short stands' c.position bracketed lookback false

end Counts
end Agreement

end TagCheck.Checked
