/-
# Where regions end

Where a string, a comment or a template literal ends can be said by the text alone. A
string ends with the first quote of its kind that no backslash precedes, a line comment
with the line, a block comment with the first `*/` (`Mode.EndsAt`). A template literal ends
with the backquote behind contents in which the braces of every interpolation match
(`TemplateContent`). The scanner has its own way to find these ends: it jumps inside
comments, passes some bytes in pairs and counts braces. What it comes to is the same.

For strings and comments, one step either passes the end or passes no byte at which the
region could have ended (`Visits.step_in_region`), and a run is a number of such steps.
For template literals the proof goes by the grammar of their contents. A `$` is passed
together with a brace behind it, so there is not always a state between the two; therefore
`PassesTemplate.balanced` speaks of a balanced stretch with and without a `$` before it.
-/

import TagCheck.Proofs.BytewiseComments
import TagCheck.Proofs.MarkupTree
import TagCheck.Proofs.Positions

namespace TagCheck

/-! ## Ends in the text -/

/-- The strings and comments that code can contain, each with the bytes that open it and
the mode that these lead to. -/
inductive Mode.OpenedBy : Text → Mode → Prop
  | quote {q : UInt8} (quotes : Byte.isQuote q = true) : OpenedBy [q] (.quoted q)
  | lineComment : OpenedBy [Byte.slash, Byte.slash] (.lineComment .code)
  | blockComment : OpenedBy [Byte.slash, Byte.asterisk] (.blockComment .code)

/-- Whether what ends a string or a comment begins at an index of the text. -/
def Mode.EndsAt (text : Text) (j : Nat) : Mode → Prop
  | quoted q => text[j]? = some q ∧ text[j - 1]? ≠ some Byte.backslash
  | lineComment _ => [Byte.lineFeed] <+: text.drop j
  | blockComment _ => [Byte.asterisk, Byte.slash] <+: text.drop j
  | code | template _ => False

instance (text : Text) (j : Nat) : (mode : Mode) → Decidable (mode.EndsAt text j)
  | .quoted _ => inferInstanceAs (Decidable (_ ∧ _))
  | .lineComment _ | .blockComment _ => inferInstanceAs (Decidable (_ <+: _))
  | .code | .template _ => inferInstanceAs (Decidable False)

/-- How many bytes end a string or a comment. -/
def Mode.endLength : Mode → Nat
  | blockComment _ => 2
  | _ => 1

/-- `j` is the first index from `start` on of which `P` holds. -/
def FirstFrom (start : Nat) (P : Nat → Prop) (j : Nat) : Prop :=
  start ≤ j ∧ P j ∧ ∀ k < j, start ≤ k → ¬ P k

instance (start j : Nat) (P : Nat → Prop) [DecidablePred P] : Decidable (FirstFrom start P j) :=
  inferInstanceAs (Decidable (_ ∧ _ ∧ _))

theorem FirstFrom.unique {start i j : Nat} {P : Nat → Prop} (first : FirstFrom start P i)
    (other : FirstFrom start P j) : i = j := by
  refine Nat.le_antisymm (Nat.le_of_not_lt ?_) (Nat.le_of_not_lt ?_)
  · exact fun later => first.2.2 j later other.1 other.2.1
  · exact fun later => other.2.2 i later first.1 first.2.1

theorem FirstFrom.earlier {start later j : Nat} {P : Nat → Prop} (first : FirstFrom later P j)
    (onward : start ≤ later) (clear : ∀ k, start ≤ k → k < later → ¬ P k) :
    FirstFrom start P j := by
  refine ⟨Nat.le_trans onward first.1, first.2.1, ?_⟩
  intro k before passing
  rcases Nat.lt_or_ge k later with passed | notPassed
  · exact clear k passing passed
  · exact first.2.2 k before notPassed

def CommentFree (bytes : Text) : Prop :=
  ¬ [Byte.slash, Byte.slash] <:+: bytes ∧ ¬ [Byte.slash, Byte.asterisk] <:+: bytes

theorem CommentFree.part {bytes piece : Text} (free : CommentFree bytes)
    (within : piece <:+: bytes) : CommentFree piece :=
  ⟨fun pair => free.1 (pair.trans within), fun pair => free.2 (pair.trans within)⟩

/-- Text of a template literal between its interpolations. -/
structure TemplateText (bytes : Text) : Prop where
  noBackquote : Byte.backquote ∉ bytes
  noInterpolation : ¬ [Byte.dollar, Byte.openBrace] <:+: bytes

/-- What a template literal may contain: text and interpolations in turn. In an
interpolation the braces match; whatever else it holds is not looked at. -/
inductive TemplateContent : Text → Prop
  | text {bytes : Text} (plain : TemplateText bytes) : TemplateContent bytes
  | interpolation {bytes inner rest : Text} (plain : TemplateText bytes)
      (balanced : Markup.Balanced inner) (free : CommentFree inner)
      (follows : TemplateContent rest) :
      TemplateContent
        (bytes ++ Byte.dollar :: Byte.openBrace :: (inner ++ Byte.closeBrace :: rest))

def Mode.InTemplate (mode : Mode) : Prop := ∃ depth, mode = .template depth

/-! ## What is read there -/

namespace Stride

variable {options : ScanOptions}

theorem read_openedBy {opener : Text} {mode : Mode} (opened : Mode.OpenedBy opener mode)
    (previous : Option UInt8) (rule : Option Rule) (rest : Text) :
    read options .code previous rule (opener ++ rest) = ⟨opener.length, mode, none⟩ := by
  cases opened with
  | lineComment => rfl
  | blockComment => rfl
  | quote quotes =>
      rw [Byte.isQuote, Bool.or_eq_true, beq_iff_eq, beq_iff_eq] at quotes
      rcases quotes with rfl | rfl <;> cases rest <;> rfl

/-- Inside a string every byte is passed on its own. -/
theorem read_quoted {q b : UInt8} (quotes : Byte.isQuote q = true) (previous : Option UInt8)
    (rule : Option Rule) (rest : Text) :
    read options (.quoted q) previous rule (b :: rest) =
      ⟨1, Lexer.quotedNext q previous b, none⟩ := by
  have unopened : (Mode.quoted q).commentOpened? options (b :: rest) = none :=
    Mode.commentOpened?_of_hostless rfl _
  by_cases lineEnds : b = Byte.lineFeed
  · have notQuote : b ≠ q := by
      rintro rfl
      rw [lineEnds] at quotes
      exact absurd quotes (by decide)
    have stays : Lexer.quotedNext q previous b = .quoted q := by
      rw [Lexer.quotedNext, decide_eq_false notQuote]
      rfl
    rw [stays, lineEnds]
    rfl
  · simp only [read, if_neg lineEnds, unopened]

theorem read_backquote (previous : Option UInt8) (rule : Option Rule) (rest : Text) :
    read options .code previous rule (Byte.backquote :: rest) =
      ⟨1, .template 0, none⟩ := by
  cases rest <;> rfl

theorem read_closing_backquote (previous : Option UInt8) (rule : Option Rule)
    (rest : Text) :
    read options (.template 0) previous rule (Byte.backquote :: rest) =
      ⟨1, .code, none⟩ := by
  cases rest <;> rfl

end Stride

theorem Lexer.templateNext_text {b : UInt8} (notBackquote : b ≠ Byte.backquote) :
    templateNext 0 b = .template 0 := by
  simp only [templateNext, decide_eq_false notBackquote, Nat.lt_irrefl, gt_iff_lt,
    decide_false, Bool.false_and, Bool.and_false, if_neg Bool.false_ne_true]

theorem Lexer.templateNext_plain {b : UInt8} (depth : Nat) (opensNone : b ≠ Byte.openBrace)
    (closesNone : b ≠ Byte.closeBrace) :
    templateNext (depth + 1) b = .template (depth + 1) := by
  simp only [templateNext, decide_eq_false opensNone, decide_eq_false closesNone,
    decide_eq_false (Nat.succ_ne_zero depth), Bool.false_and, Bool.and_false,
    if_neg Bool.false_ne_true]

namespace Scanner

/-! ## Ends of a run through a region -/

/-- From `s` the scanner comes back to code at the offset `stop`. In between it is in the
region, and no tag has been opened or closed. -/
def ReturnsAt (options : ScanOptions) (region : Mode → Prop) (s : Scanner) (stop : Nat) : Prop :=
  ∃ t, Reaches options s t ∧ t.offset = stop ∧ t.mode = .code ∧ t.nesting = s.nesting ∧
    ∀ u, Reaches options s u → s.offset < u.offset → u.offset < stop →
      region u.mode ∧ u.nesting = s.nesting

/-- From `s` on the scanner is in the region up to the end of the text, and no tag is
opened or closed. -/
def Persists (options : ScanOptions) (region : Mode → Prop) (s : Scanner) : Prop :=
  ∃ t, Reaches options s t ∧ t.ahead = [] ∧
    ∀ u, Reaches options s u → s.offset < u.offset → region u.mode ∧ u.nesting = s.nesting

/-- Steps from inside a region, which leave the nesting as it is. -/
def Through (options : ScanOptions) (region : Mode → Prop) : Scanner → Scanner → Prop :=
  Relation.ReflTransGen fun s t => region s.mode ∧ Steps options s t ∧ t.nesting = s.nesting

variable {options : ScanOptions} {region : Mode → Prop} {text : Text} {s t u : Scanner}

namespace Through

theorem reaches (through : Through options region s t) : Reaches options s t :=
  Relation.ReflTransGen.mono (fun _ _ step => step.2.1) _ _ through

theorem nesting_eq (through : Through options region s t) : t.nesting = s.nesting := by
  induction through with
  | refl => rfl
  | tail _ step ih => exact step.2.2.trans ih

/-- A place that a run comes to lies in the region or behind it. -/
theorem cases (through : Through options region s t) (reaches : Reaches options s u) :
    region u.mode ∧ u.nesting = s.nesting ∨ Reaches options t u := by
  induction through using Relation.ReflTransGen.head_induction_on with
  | refl => exact .inr reaches
  | @head s next step _ ih =>
      obtain ⟨inside, steps, same⟩ := step
      rcases reaches.cases_head with rfl | ⟨v, first, onward⟩
      · exact .inl ⟨inside, rfl⟩
      · cases steps_rightUnique first steps
        rw [← same]
        exact ih onward

/-- The same of a run that begins with the step into the region. -/
theorem cases_of_later (through : Through options region u t) (opens : Steps options s u)
    (same : u.nesting = s.nesting) {v : Scanner} (reaches : Reaches options s v)
    (later : s.offset < v.offset) :
    region v.mode ∧ v.nesting = s.nesting ∨ Reaches options t v := by
  rcases reaches.cases_head with rfl | ⟨first, steps, onward⟩
  · exact absurd later (Nat.lt_irrefl _)
  · cases steps_rightUnique steps opens
    rw [← same]
    exact through.cases onward

theorem returnsAt (through : Through options region u t) (opens : Steps options s u)
    (same : u.nesting = s.nesting) (back : t.mode = .code) :
    ReturnsAt options region s t.offset := by
  refine ⟨t, .head opens through.reaches, rfl, back, through.nesting_eq.trans same, ?_⟩
  intro v reaches later earlier
  rcases through.cases_of_later opens same reaches later with inside | beyond
  · exact inside
  · exact absurd (Reaches.offset_le beyond) (Nat.not_le_of_lt earlier)

theorem persists (through : Through options region u t) (opens : Steps options s u)
    (same : u.nesting = s.nesting) (ended : t.ahead = []) (inside : region t.mode) :
    Persists options region s := by
  refine ⟨t, .head opens through.reaches, ended, ?_⟩
  intro v reaches later
  rcases through.cases_of_later opens same reaches later with within | beyond
  · exact within
  · rcases beyond.cases_head with rfl | ⟨next, further, _⟩
    · exact ⟨inside, through.nesting_eq.trans same⟩
    · exact absurd ended further.1

end Through

/-! ## Strings and comments -/

theorem stride_eq {mode : Mode} {ahead : Text} (inMode : s.mode = mode) (left : s.ahead = ahead) :
    s.lexer.stride options = Stride.read options mode s.lexer.cursor.before.head?
      (classify s.lexer.cursor.before) ahead := by
  rw [← inMode, ← left]
  rfl

/-- Pass bytes among which no tag begins. -/
theorem steps_past (options : ScanOptions) {bytes rest : Text} {mode : Mode}
    (front : s.ahead = bytes ++ rest) (filled : bytes ≠ [])
    (stride : s.lexer.stride options = ⟨bytes.length, mode, none⟩) :
    ∃ t, Steps options s t ∧ t.nesting = s.nesting ∧ t.mode = mode ∧ t.ahead = rest ∧
      t.offset = s.offset + bytes.length := by
  obtain ⟨t, steps, next, left, same⟩ := steps_of_stride front filled stride rfl
  exact ⟨t, steps, same, next, left, Reaches.offset_eq (.single steps) (by rw [left, front])⟩

/-- What a step from `s` to `t` does in a string or a comment: it passes the end, or no byte
at which the region could have ended. -/
def EndsOrGoesOn (text : Text) (s t : Scanner) : Prop :=
  s.mode.EndsAt text s.offset ∧ t.mode = .code ∧ t.offset = s.offset + s.mode.endLength ∨
    t.mode = s.mode ∧ ∀ k, s.offset ≤ k → k < t.offset → ¬ s.mode.EndsAt text k

theorem steps_past_end {closer rest : Text} (front : s.ahead = closer ++ rest)
    (filled : closer ≠ []) (stride : s.lexer.stride options = ⟨closer.length, .code, none⟩)
    (ends : s.mode.EndsAt text s.offset) (whole : closer.length = s.mode.endLength) :
    ∃ t, Steps options s t ∧ t.nesting = s.nesting ∧ EndsOrGoesOn text s t := by
  obtain ⟨t, steps, same, back, _, further⟩ := steps_past options front filled stride
  rw [whole] at further
  exact ⟨t, steps, same, .inl ⟨ends, back, further⟩⟩

/-- A comment that goes on does not end here. -/
theorem not_endsAt_of_goesOn {mode : Mode} {j : Nat}
    (goesOn : mode.commentGoesOn (text.drop j) = true) : ¬ mode.EndsAt text j := by
  intro ends
  cases mode with
  | code => exact ends
  | template depth => exact ends
  | quoted q => cases text.drop j <;> exact Bool.false_ne_true goesOn
  | lineComment host =>
      obtain ⟨rest, cut⟩ := ends
      rw [← cut] at goesOn
      exact Bool.false_ne_true goesOn
  | blockComment host =>
      obtain ⟨rest, cut⟩ := ends
      rw [← cut] at goesOn
      exact Bool.false_ne_true goesOn

namespace Visits

theorem step_of_goesOn (visits : Visits options text s)
    (goesOn : s.mode.commentGoesOn s.ahead = true) :
    ∃ t, Steps options s t ∧ t.nesting = s.nesting ∧ EndsOrGoesOn text s t := by
  obtain ⟨count, read, passed⟩ := Stride.read_of_goesOn options s.lexer.cursor.before.head?
    (classify s.lexer.cursor.before) goesOn
  have stride : s.lexer.stride options = ⟨count, s.mode, none⟩ := read
  have steps := steps_of_quiet (Mode.ne_nil_of_commentGoesOn goesOn) (congrArg Stride.found stride)
  refine ⟨_, steps, rfl, .inr ⟨congrArg Stride.mode stride, ?_⟩⟩
  intro k passing before
  obtain ⟨i, rfl⟩ := Nat.exists_eq_add_of_le passing
  have early : i < count := by
    rw [offset, offset, stride, Cursor.advance_eq, Position.past_offset, List.length_take] at before
    exact Nat.lt_of_lt_of_le (Nat.lt_of_add_lt_add_left before) (Nat.min_le_left _ _)
  apply not_endsAt_of_goesOn
  rw [← List.drop_drop, ← visits.cut.2.1]
  exact passed i early

theorem step_in_comment (visits : Visits options text s) (ahead : s.ahead ≠ [])
    (inComment : s.mode = .lineComment .code ∨ s.mode = .blockComment .code) :
    ∃ t, Steps options s t ∧ t.nesting = s.nesting ∧ EndsOrGoesOn text s t := by
  by_cases goesOn : s.mode.commentGoesOn s.ahead = true
  · exact visits.step_of_goesOn goesOn
  · obtain ⟨b, rest, front⟩ := List.exists_cons_of_ne_nil ahead
    have left : text.drop s.offset = b :: rest := visits.cut.2.1.symm.trans front
    rw [front] at goesOn
    rcases inComment with inLine | inBlock
    · rw [inLine, Mode.commentGoesOn, bne_iff_ne, not_not] at goesOn
      subst goesOn
      have cut : s.ahead = [Byte.lineFeed] ++ rest := front
      apply steps_past_end cut (List.cons_ne_nil _ _) (stride_eq inLine cut)
      · rw [inLine, Mode.EndsAt, left]
        exact List.prefix_append [Byte.lineFeed] rest
      · rw [inLine]
        rfl
    · rw [inBlock, Mode.commentGoesOn, Bool.not_eq_true', Bool.not_eq_false,
        and_head?_eq_some] at goesOn
      obtain ⟨rfl, rest, rfl⟩ := goesOn
      have cut : s.ahead = [Byte.asterisk, Byte.slash] ++ rest := front
      apply steps_past_end cut (List.cons_ne_nil _ _) (stride_eq inBlock cut)
      · rw [inBlock, Mode.EndsAt, left]
        exact List.prefix_append [Byte.asterisk, Byte.slash] rest
      · rw [inBlock]
        rfl

theorem step_in_string {q : UInt8} (visits : Visits options text s)
    (entered : 0 < s.offset) (ahead : s.ahead ≠ []) (inString : s.mode = .quoted q)
    (quotes : Byte.isQuote q = true) :
    ∃ t, Steps options s t ∧ t.nesting = s.nesting ∧ EndsOrGoesOn text s t := by
  obtain ⟨b, rest, front⟩ := List.exists_cons_of_ne_nil ahead
  have here : text[s.offset]? = some b := by
    rw [← List.head?_drop, ← visits.cut.2.1, front, List.head?_cons]
  have behind : text[s.offset - 1]? = s.lexer.cursor.before.head? :=
    visits.standsIn.getElem?_behind entered
  have cut : s.ahead = [b] ++ rest := front
  obtain ⟨t, steps, same, next, _, further⟩ := steps_past options cut
    (List.cons_ne_nil _ _) ((stride_eq inString front).trans (Stride.read_quoted quotes _ _ _))
  have ends : s.mode.EndsAt text s.offset ↔
      (b = q && s.lexer.cursor.before.head? != some Byte.backslash) = true := by
    rw [inString, Mode.EndsAt, here, behind, Bool.and_eq_true, decide_eq_true_iff, bne_iff_ne,
      Option.some.injEq]
  refine ⟨t, steps, same, ?_⟩
  rw [Lexer.quotedNext] at next
  split at next
  · rename_i closes
    refine .inl ⟨ends.mpr closes, next, ?_⟩
    rw [inString]
    exact further
  · rename_i goesOn
    refine .inr ⟨next.trans inString.symm, ?_⟩
    intro k passing before
    rw [further] at before
    have only : k = s.offset := Nat.le_antisymm (Nat.le_of_lt_succ before) passing
    rw [only, ends]
    exact goesOn

theorem step_in_region {opener : Text} (visits : Visits options text s)
    (entered : 0 < s.offset) (ahead : s.ahead ≠ []) (opened : Mode.OpenedBy opener s.mode) :
    ∃ t, Steps options s t ∧ t.nesting = s.nesting ∧ EndsOrGoesOn text s t := by
  generalize inRegion : s.mode = mode at opened
  cases opened with
  | quote quotes => exact visits.step_in_string entered ahead inRegion quotes
  | lineComment => exact visits.step_in_comment ahead (.inl inRegion)
  | blockComment => exact visits.step_in_comment ahead (.inr inRegion)

end Visits

/-- What ends a string or a comment is a part of the text. -/
theorem lt_length_of_endsAt {mode : Mode} {j : Nat} (ends : mode.EndsAt text j) :
    j < text.length := by
  have filled (closer : Text) (begins : closer <+: text.drop j) (bytes : closer ≠ []) :
      j < text.length := by
    have longer := begins.length_le
    have some := List.length_pos_iff.mpr bytes
    rw [List.length_drop] at longer
    omega
  cases mode with
  | code => exact ends.elim
  | template depth => exact ends.elim
  | quoted q => exact (List.getElem?_eq_some_iff.mp ends.1).1
  | lineComment host => exact filled _ ends (List.cons_ne_nil _ _)
  | blockComment host => exact filled _ ends (List.cons_ne_nil _ _)

/-- A run through a string or a comment comes to the first place where the region can end,
and is back in code behind it; or there is none, and it comes to the end of the text. -/
theorem Visits.through_region {opener : Text} (visits : Visits options text s)
    (entered : 0 < s.offset) (opened : Mode.OpenedBy opener s.mode) :
    (∃ j t, FirstFrom s.offset (s.mode.EndsAt text) j ∧ Through options (· = s.mode) s t ∧
        t.mode = .code ∧ t.offset = j + s.mode.endLength) ∨
      (∀ j, s.offset ≤ j → ¬ s.mode.EndsAt text j) ∧
        ∃ t, Through options (· = s.mode) s t ∧ t.mode = s.mode ∧ t.ahead = [] := by
  induction left : s.ahead.length using Nat.strong_induction_on generalizing s with
  | _ left' ih =>
  by_cases ahead : s.ahead = []
  · refine .inr ⟨?_, s, .refl, rfl, ahead⟩
    intro j beyond ends
    have inside : j < text.length := lt_length_of_endsAt ends
    have atEnd : s.offset + s.ahead.length = text.length := visits.standsIn.offset_add
    rw [ahead, List.length_nil, Nat.add_zero] at atEnd
    exact absurd inside (Nat.not_lt_of_le (atEnd ▸ beyond))
  · obtain ⟨u, steps, same, ⟨ends, back, further⟩ | ⟨stays, clear⟩⟩ :=
      visits.step_in_region entered ahead opened
    · have first : FirstFrom s.offset (s.mode.EndsAt text) s.offset :=
        ⟨Nat.le_refl _, ends, fun k before passing => absurd before (Nat.not_lt_of_le passing)⟩
      exact .inl ⟨s.offset, u, first, .single ⟨rfl, steps, same⟩, back, further⟩
    · have onward := steps.offset_lt
      have run := ih u.ahead.length (left ▸ steps.ahead_length) (visits.tail steps)
        (Nat.lt_trans entered onward) (stays ▸ opened) rfl
      rw [stays] at run
      rcases run with ⟨j, t, first, through, back, further⟩ | ⟨never, t, through, inside, ended⟩
      · exact .inl ⟨j, t, first.earlier (Nat.le_of_lt onward) clear,
          .head ⟨rfl, steps, same⟩ through, back, further⟩
      · refine .inr ⟨?_, t, .head ⟨rfl, steps, same⟩ through, inside, ended⟩
        intro k passing
        rcases Nat.lt_or_ge k u.offset with passed | notPassed
        · exact clear k passing passed
        · exact never k notPassed

/-- A string or a comment that begins in code ends where the text says, or not at all. -/
theorem Visits.region_ends {opener : Text} {mode : Mode} (visits : Visits options text s)
    (inCode : s.mode = .code) (opened : Mode.OpenedBy opener mode)
    (begins : opener <+: text.drop s.offset) :
    (∀ j, FirstFrom (s.offset + opener.length) (mode.EndsAt text) j →
        ReturnsAt options (· = mode) s (j + mode.endLength)) ∧
      ((∀ j, s.offset + opener.length ≤ j → ¬ mode.EndsAt text j) →
        Persists options (· = mode) s) := by
  obtain ⟨rest, cut⟩ := begins
  have front : s.ahead = opener ++ rest := visits.cut.2.1.trans cut.symm
  have filled : opener ≠ [] := by cases opened <;> exact List.cons_ne_nil _ _
  obtain ⟨u, steps, same, inside, _, further⟩ := steps_past options front filled
    ((stride_eq inCode front).trans (Stride.read_openedBy opened _ _ _))
  have entered : 0 < u.offset := Nat.lt_of_le_of_lt (Nat.zero_le _) steps.offset_lt
  rw [← further, ← inside]
  rcases Visits.through_region (visits.tail steps) entered (inside.symm ▸ opened) with
    ⟨i, t, first, through, back, beyond⟩ | ⟨never, t, through, inside', ended⟩
  · refine ⟨?_, fun none => absurd first.2.1 (none i first.1)⟩
    intro j first'
    rw [FirstFrom.unique first' first, ← beyond]
    exact through.returnsAt steps same back
  · exact ⟨fun j first => absurd first.2.1 (never j first.1),
      fun _ => through.persists steps same ended inside'⟩

/-! ## Template literals -/

/-- In a template literal with `depth` braces open the scanner passes these bytes, when
`rest` follows them, and is then in the literal with `depth'` braces open. -/
def PassesTemplate (options : ScanOptions) (depth : Nat) (bytes rest : Text) (depth' : Nat) :
    Prop :=
  ∀ s, s.mode = .template depth → s.ahead = bytes ++ rest →
    ∃ t, Through options Mode.InTemplate s t ∧ t.mode = .template depth' ∧ t.ahead = rest

namespace PassesTemplate

variable {depth depth' depth'' : Nat} {bytes first second rest : Text} {b : UInt8}

theorem nil : PassesTemplate options depth [] rest depth :=
  fun s inTemplate front => ⟨s, .refl, inTemplate, front⟩

theorem append (left : PassesTemplate options depth first (second ++ rest) depth')
    (right : PassesTemplate options depth' second rest depth'') :
    PassesTemplate options depth (first ++ second) rest depth'' := by
  intro s inTemplate front
  rw [List.append_assoc] at front
  obtain ⟨t, through, between, front'⟩ := left s inTemplate front
  obtain ⟨u, through', inside, behind⟩ := right t between front'
  exact ⟨u, Relation.ReflTransGen.trans through through', inside, behind⟩

theorem of_read (filled : bytes ≠ []) (read : ∀ previous rule,
      Stride.read options (.template depth) previous rule (bytes ++ rest) =
        ⟨bytes.length, .template depth', none⟩) :
    PassesTemplate options depth bytes rest depth' := by
  intro s inTemplate front
  obtain ⟨t, steps, same, next, behind, _⟩ := steps_past options front filled
    ((stride_eq inTemplate front).trans (read _ _))
  exact ⟨t, .single ⟨⟨depth, inTemplate⟩, steps, same⟩, next, behind⟩

/-- A byte that opens neither a comment nor an interpolation. -/
theorem byte (unopened : (Mode.template depth).commentOpened? options (b :: rest) = none)
    (alone : ¬ (b = Byte.dollar ∧ rest.head? = some Byte.openBrace))
    (next : Lexer.templateNext depth b = .template depth') :
    PassesTemplate options depth [b] rest depth' := by
  apply of_read (List.cons_ne_nil _ _)
  intro previous rule
  have single : ¬ (b = Byte.dollar && rest.head? == some Byte.openBrace) = true := by
    rwa [Bool.and_eq_true, decide_eq_true_iff, beq_iff_eq]
  rw [List.singleton_append]
  by_cases lineEnds : b = Byte.lineFeed
  · rw [lineEnds] at next ⊢
    rw [← next]
    rfl
  · simp only [Stride.read, if_neg lineEnds, unopened, if_neg single, next]
    rfl

theorem dollarBrace : PassesTemplate options depth [Byte.dollar, Byte.openBrace] rest (depth + 1) :=
  of_read (List.cons_ne_nil _ _) fun _ _ => by
    cases depth <;> rfl

end PassesTemplate

section Contents

variable {bytes rest : Text}

/-- What follows a stretch of a template literal goes on with no pair of bytes that has a
meaning together. -/
def StartsAnew (rest : Text) : Prop :=
  ∀ b ∈ rest.head?, b ≠ Byte.slash ∧ b ≠ Byte.asterisk ∧ b ≠ Byte.openBrace

theorem StartsAnew.cons {b : UInt8}
    (alone : b ≠ Byte.slash ∧ b ≠ Byte.asterisk ∧ b ≠ Byte.openBrace) (rest : Text) :
    StartsAnew (b :: rest) := by
  intro c first
  cases first
  exact alone

theorem commentOpened?_of_free {b : UInt8} (free : CommentFree (b :: bytes))
    (anew : StartsAnew rest) (mode : Mode) :
    mode.commentOpened? options (b :: (bytes ++ rest)) = none := by
  cases opened : mode.commentOpened? options (b :: (bytes ++ rest)) with
  | none => rfl
  | some comment =>
      have pair : ∃ second tail, b :: (bytes ++ rest) = Byte.slash :: second :: tail ∧
          (second = Byte.slash ∨ second = Byte.asterisk) := by
        obtain ⟨_, tail, _, ⟨front, _⟩ | ⟨front, _⟩⟩ := Mode.commentOpened?_eq_some opened
        · exact ⟨_, tail, front, .inl rfl⟩
        · exact ⟨_, tail, front, .inr rfl⟩
      obtain ⟨second, tail, front, kind⟩ := pair
      obtain ⟨rfl, next⟩ := List.cons.inj front
      cases bytes with
      | nil =>
          obtain ⟨notSlash, notAsterisk, _⟩ := anew second (congrArg List.head? next)
          exact absurd kind (not_or.mpr ⟨notSlash, notAsterisk⟩)
      | cons c bytes =>
          obtain ⟨rfl, _⟩ := List.cons.inj next
          have begins : [Byte.slash, c] <:+: Byte.slash :: c :: bytes :=
            (List.prefix_append [Byte.slash, c] bytes).isInfix
          rcases kind with rfl | rfl
          · exact absurd begins free.1
          · exact absurd begins free.2

namespace PassesTemplate

theorem plainText (plain : TemplateText bytes) (anew : StartsAnew rest)
    (free : options.commentsInTemplateText = true → CommentFree bytes) :
    PassesTemplate options 0 bytes rest 0 := by
  induction bytes with
  | nil => exact nil
  | cons b bytes ih =>
      have onward : bytes <:+: b :: bytes := (List.suffix_cons b bytes).isInfix
      have plain' : TemplateText bytes :=
        ⟨fun among => plain.noBackquote (List.mem_cons_of_mem b among),
          fun pair => plain.noInterpolation (pair.trans onward)⟩
      have unopened : (Mode.template 0).commentOpened? options (b :: (bytes ++ rest)) = none := by
        cases comments : options.commentsInTemplateText with
        | true => exact commentOpened?_of_free (free comments) anew _
        | false =>
            apply Mode.commentOpened?_of_hostless
            rw [Mode.commentHost?, comments]
            rfl
      have alone : ¬ (b = Byte.dollar ∧ (bytes ++ rest).head? = some Byte.openBrace) := by
        rintro ⟨rfl, brace⟩
        cases bytes with
        | nil => exact (anew _ brace).2.2 rfl
        | cons c bytes =>
            cases brace
            exact plain.noInterpolation (List.prefix_append [_, _] bytes).isInfix
      have notBackquote : b ≠ Byte.backquote := by
        rintro rfl
        exact plain.noBackquote List.mem_cons_self
      have first := byte unopened alone (Lexer.templateNext_text notBackquote)
      exact first.append (ih plain' fun comments => (free comments).part onward)

theorem dollar {depth : Nat} (alone : rest.head? ≠ some Byte.openBrace) :
    PassesTemplate options (depth + 1) [Byte.dollar] rest (depth + 1) :=
  byte (Mode.commentOpened?_of_ne_slash (by decide) _ _) (fun opens => alone opens.2)
    (Lexer.templateNext_plain depth (by decide) (by decide))

theorem openBrace {depth : Nat} :
    PassesTemplate options (depth + 1) [Byte.openBrace] rest (depth + 2) :=
  byte (Mode.commentOpened?_of_ne_slash (by decide) _ _) (fun opens => absurd opens.1 (by decide))
    rfl

theorem closeBrace {depth : Nat} :
    PassesTemplate options (depth + 1) [Byte.closeBrace] rest depth :=
  byte (Mode.commentOpened?_of_ne_slash (by decide) _ _) (fun opens => absurd opens.1 (by decide))
    rfl

/-- A balanced stretch is passed at the depth it begins at, and so it is when a `$` stands
before it. -/
theorem balanced {depth : Nat} (balanced : Markup.Balanced bytes) (free : CommentFree bytes)
    (anew : StartsAnew rest) :
    PassesTemplate options (depth + 1) bytes rest (depth + 1) ∧
      PassesTemplate options (depth + 1) (Byte.dollar :: bytes) rest (depth + 1) := by
  induction balanced generalizing depth rest with
  | nil => exact ⟨nil, dollar fun brace => (anew _ brace).2.2 rfl⟩
  | @plain b bytes opensNone closesNone _ ih =>
      obtain ⟨others, dollarOthers⟩ :=
        @ih rest depth (free.part (List.suffix_cons b bytes).isInfix) anew
      have whole : PassesTemplate options (depth + 1) (b :: bytes) rest (depth + 1) := by
        by_cases isDollar : b = Byte.dollar
        · rw [isDollar]
          exact dollarOthers
        · exact (byte (commentOpened?_of_free free anew _) (fun opens => isDollar opens.1)
            (Lexer.templateNext_plain depth opensNone closesNone)).append others
      have alone : (b :: bytes ++ rest).head? ≠ some Byte.openBrace :=
        fun brace => opensNone (Option.some.inj brace)
      exact ⟨whole, (dollar alone).append whole⟩
  | @braces inner after _ _ inside follows =>
      -- The brace takes the inner stretch one level deeper, whether it is read alone or
      -- together with the `$`.
      have ends : StartsAnew ([Byte.closeBrace] ++ after ++ rest) := .cons (by decide) _
      have innerFree : CommentFree inner :=
        free.part ⟨[Byte.openBrace], Byte.closeBrace :: after, rfl⟩
      have afterFree : CommentFree after :=
        free.part ((List.suffix_cons _ after).trans (List.suffix_append _ _)).isInfix
      have within : PassesTemplate options (depth + 2) (inner ++ ([Byte.closeBrace] ++ after)) rest
          (depth + 1) :=
        (inside innerFree ends).1.append (closeBrace.append (follows afterFree anew).1)
      exact ⟨openBrace.append within, dollarBrace.append within⟩

end PassesTemplate

theorem PassesTemplate.contents {content : Text} (contents : TemplateContent content)
    (free : options.commentsInTemplateText = true → CommentFree content) (rest : Text) :
    PassesTemplate options 0 content (Byte.backquote :: rest) 0 := by
  induction contents with
  | text plain => exact plainText plain (.cons (by decide) rest) free
  | @interpolation bytes inner after plain balanced innerFree _ ih =>
      have afterWithin : after <:+
          bytes ++ Byte.dollar :: Byte.openBrace :: (inner ++ Byte.closeBrace :: after) :=
        ⟨bytes ++ Byte.dollar :: Byte.openBrace :: (inner ++ [Byte.closeBrace]), by simp⟩
      have front : PassesTemplate options 0 bytes (Byte.dollar :: Byte.openBrace ::
          (inner ++ Byte.closeBrace :: after) ++ Byte.backquote :: rest) 0 :=
        plainText plain (.cons (by decide) _) fun comments =>
          (free comments).part (List.prefix_append _ _).isInfix
      have within := (PassesTemplate.balanced balanced innerFree (.cons (by decide) _)).1.append
        (closeBrace.append (ih fun comments => (free comments).part afterWithin.isInfix))
      exact front.append (dollarBrace.append within)

end Contents

/-- A template literal that begins in code ends with the backquote behind its contents. -/
theorem Visits.template_ends (visits : Visits options text s) (inCode : s.mode = .code)
    {content : Text} (contents : TemplateContent content)
    (free : options.commentsInTemplateText = true → CommentFree content)
    (begins : Byte.backquote :: (content ++ [Byte.backquote]) <+: text.drop s.offset) :
    ReturnsAt options Mode.InTemplate s (s.offset + content.length + 2) := by
  obtain ⟨rest, cut⟩ := begins
  have front : s.ahead = [Byte.backquote] ++ (content ++ Byte.backquote :: rest) := by
    rw [visits.cut.2.1, ← cut, List.cons_append, List.append_assoc]
    rfl
  have opening : s.lexer.stride options = ⟨1, .template 0, none⟩ :=
    (stride_eq inCode front).trans (Stride.read_backquote _ _ _)
  obtain ⟨u, opens, same, inside, front', _⟩ := steps_past options front
    (List.cons_ne_nil _ _) opening
  obtain ⟨v, through, inside', front''⟩ :=
    PassesTemplate.contents contents free rest u inside front'
  have closing : v.lexer.stride options = ⟨1, .code, none⟩ :=
    (stride_eq inside' front'').trans (Stride.read_closing_backquote _ _ _)
  obtain ⟨t, closes, same', back, left, _⟩ := steps_past options
    (show v.ahead = [Byte.backquote] ++ rest from front'') (List.cons_ne_nil _ _) closing
  have whole : Through options Mode.InTemplate u t := through.tail ⟨⟨0, inside'⟩, closes, same'⟩
  have passed : s.ahead = Byte.backquote :: (content ++ [Byte.backquote]) ++ t.ahead := by
    rw [left, visits.cut.2.1, cut]
  have stop : t.offset = s.offset + content.length + 2 := by
    rw [Reaches.offset_eq (.head opens whole.reaches) passed, List.length_cons, List.length_append]
    rfl
  rw [← stop]
  exact whole.returnsAt opens same back

end Scanner

open Scanner in
/-- The regions of a text end where it says that they do. Let a scanner be in code. What
begins there as a string ends with the first later quote of its kind that does not follow
a backslash, a block comment with the first `*/` behind its opener, and a line comment
with the first line feed: the scanner is in code next behind that, and has met no tag. If
there is no such end, it stays inside up to the end of the text and meets no tag. A
template literal ends with the backquote behind its contents, whatever else stands in the
interpolations, in which the braces match. Nothing may open a comment: in interpolations
under all options, and in the text between them where comments open there. -/
theorem regions_end_where_said {options : ScanOptions} {text : Text} {s : Scanner}
    (visits : Visits options text s) (inCode : s.mode = .code) :
    (∀ opener mode, Mode.OpenedBy opener mode → opener <+: text.drop s.offset →
      (∀ j, FirstFrom (s.offset + opener.length) (mode.EndsAt text) j →
          ReturnsAt options (· = mode) s (j + mode.endLength)) ∧
        ((∀ j, s.offset + opener.length ≤ j → ¬ mode.EndsAt text j) →
          Persists options (· = mode) s)) ∧
    ∀ content, TemplateContent content →
      (options.commentsInTemplateText = true → CommentFree content) →
      Byte.backquote :: (content ++ [Byte.backquote]) <+: text.drop s.offset →
        ReturnsAt options Mode.InTemplate s (s.offset + content.length + 2) := by
  refine ⟨?_, ?_⟩
  · intro opener mode opened begins
    exact visits.region_ends inCode opened begins
  · intro content contents free begins
    exact visits.template_ends inCode contents free begins

open Scanner in
theorem regions_end_where_said_escaped :
    let string : Text := "'a\\'b' <c>".toUTF8.toList
    let inner : Text := [Byte.openBrace, Byte.backquote, Byte.lessThan, Byte.closeBrace]
    let content : Text := [Byte.openBrace] ++ Byte.dollar :: Byte.openBrace ::
      (inner ++ Byte.closeBrace :: [Byte.dollar])
    let template : Text := Byte.backquote :: (content ++ [Byte.backquote, Byte.lessThan])
    ReturnsAt {} (· = .quoted Byte.singleQuote) (start {} string) 6 ∧
      ReturnsAt {} Mode.InTemplate (start {} template) 11 := by
  intro string inner content template
  have opens : [Byte.singleQuote] <+: string.drop 0 := by decide +kernel
  have first : FirstFrom 1 ((Mode.quoted Byte.singleQuote).EndsAt string) 5 := by decide +kernel
  have balanced : Markup.Balanced inner :=
    .braces (.plain (by decide) (by decide) (.plain (by decide) (by decide) .nil)) .nil
  have contents : TemplateContent content :=
    .interpolation ⟨by decide, by decide⟩ balanced ⟨by decide, by decide⟩
      (.text ⟨by decide, by decide⟩)
  have free : CommentFree content := ⟨by decide, by decide⟩
  have begins : Byte.backquote :: (content ++ [Byte.backquote]) <+: template.drop 0 := by decide
  exact ⟨((regions_end_where_said .refl rfl).1 _ _ (.quote (by decide)) opens).1 5 first,
    (regions_end_where_said .refl rfl).2 content contents (fun _ => free) begins⟩

end TagCheck
