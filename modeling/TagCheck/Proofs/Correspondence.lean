/-
# Two scans side by side

Two lexers with the same text ahead go the same way as long as they agree in the
little that a step knows of the text behind: whether the last byte was a backslash,
and whether a bracket that could begin a tag would be claimed by the type level
(`Lexer.Alike`). What they find then corresponds lexeme by lexeme, and so does the
verdict if they started from corresponding stacks (`Nesting.settle_alike`).

Where the lexers stand is left to a relation `place` between positions. Nothing is
asked of it but that passing the same byte on both sides keeps it (`Carried`).
-/

import TagCheck.Proofs.OnePass
import TagCheck.Proofs.StackLaws

namespace TagCheck

variable {place : Position → Position → Prop}

/-- Passing the same byte on both sides keeps the relation. -/
def Carried (place : Position → Position → Prop) : Prop :=
  ∀ p q b, place p q → place (Position.next p b) (Position.next q b)

theorem Carried.past (carried : Carried place) {p q : Position} (sites : place p q)
    (bytes : Text) : place (p.past bytes) (q.past bytes) := by
  induction bytes generalizing p q with
  | nil => exact sites
  | cons b rest ih => exact ih (carried p q b sites)

/-! ## What corresponds -/

/-- Findings of one kind. Which rule claimed a bracket makes no difference. -/
inductive Finding.Alike : Finding → Finding → Prop
  | tag (form : TagForm) (name : String) : Alike (.tag form name) (.tag form name)
  | typeBrackets (rule rule' : Rule) : Alike (.typeBrackets rule) (.typeBrackets rule')

/-- Lexemes of one kind and, for tags, of one length, at corresponding places. -/
inductive Lexeme.Alike (place : Position → Position → Prop) : Lexeme → Lexeme → Prop
  | tag (form : TagForm) (name : String) (length : Nat) {site site' : Position}
      (sites : place site site') :
      Alike place (.tag ⟨form, name, site, site.offset + length⟩)
        (.tag ⟨form, name, site', site'.offset + length⟩)
  | typeBrackets {site site' : Position} {rule rule' : Rule} :
      Alike place (.typeBrackets site rule) (.typeBrackets site' rule')

/-- Defects that say the same of corresponding places. A span begins where its tag
does and is as long on both sides. -/
inductive Defect.Alike (place : Position → Position → Prop) : Defect → Defect → Prop
  | unmatchedClose (name : String) (length : Nat) {site site' : Position}
      (sites : place site site') :
      Alike place (.unmatchedClose name site ⟨site.offset, length⟩)
        (.unmatchedClose name site' ⟨site'.offset, length⟩)
  | mismatch (expected found : String) (length : Nat) {opened opened' site site' : Position}
      (openings : place opened opened') (sites : place site site') :
      Alike place (.mismatch expected opened found site ⟨site.offset, length⟩)
        (.mismatch expected opened' found site' ⟨site'.offset, length⟩)
  | unclosed (name : String) (others : Nat) {site site' : Position}
      (sites : place site site') :
      Alike place (.unclosed name site others) (.unclosed name site' others)
  | tooDeep (limit : Nat) {site site' : Position} (sites : place site site') :
      Alike place (.tooDeep limit site) (.tooDeep limit site')

/-- Outcomes with as many elements counted and with defects that correspond, if
there are any. -/
structure Outcome.Alike (place : Position → Position → Prop) (o p : Outcome) : Prop where
  tagsChecked : o.tagsChecked = p.tagsChecked
  defect : Option.Rel (Defect.Alike place) o.defect p.defect

/-- What a defect says, apart from places: of which kind it is, the names in it, and how many
others are open or how many may be. -/
def Defect.gist : Defect → DefectKind × List String × Option Nat
  | unmatchedClose name _ _ => (.unmatchedClose, [name], none)
  | mismatch expected _ found _ _ => (.tagMismatch, [expected, found], none)
  | unclosed name _ others => (.unclosedTag, [name], some others)
  | tooDeep limit _ => (.stackOverflow, [], some limit)
  | unreadable path reason => (.fileUnreadable, [path, reason], none)
  | outOfMemory path => (.outOfMemory, [path], none)

section

variable {place : Position → Position → Prop} {d e : Defect}

theorem Defect.Alike.kind_eq (alike : d.Alike place e) : d.kind = e.kind := by
  cases alike <;> rfl

theorem Defect.Alike.gist_eq (alike : d.Alike place e) : d.gist = e.gist := by
  cases alike <;> rfl

theorem Outcome.Alike.map_defect_eq {α : Type} {o p : Outcome} (alike : o.Alike place p)
    {shown : Defect → α} (same : ∀ d e, Defect.Alike place d e → shown d = shown e) :
    o.defect.map shown = p.defect.map shown := by
  generalize o.defect = d, p.defect = e, alike.defect = related
  cases related with
  | none => rfl
  | some like => exact congrArg some (same _ _ like)

/-- Outcomes that are alike say the same. -/
theorem Outcome.Alike.gist_eq {o p : Outcome} (alike : o.Alike place p) :
    o.defect.map Defect.gist = p.defect.map Defect.gist :=
  alike.map_defect_eq fun _ _ => Defect.Alike.gist_eq

end

/-! ## Strides -/

/-- Strides of one length that lead to one mode, with like findings. -/
structure Stride.Alike (s t : Stride) : Prop where
  length : s.length = t.length
  mode : s.mode = t.mode
  found : Option.Rel Finding.Alike s.found t.found

namespace Stride

theorem Alike.refl (s : Stride) : s.Alike s := by
  refine ⟨rfl, rfl, ?_⟩
  cases s.found with
  | none => exact .none
  | some found =>
      cases found with
      | tag form name => exact .some (.tag form name)
      | typeBrackets rule => exact .some (.typeBrackets rule rule)

theorem Alike.behind {s t : Stride} (alike : s.Alike t) (count : Nat) :
    (s.behind count).Alike (t.behind count) :=
  ⟨congrArg (count + ·) alike.length, alike.mode, alike.found⟩

variable {options : ScanOptions} {rule rule' : Option Rule}

theorem tagBody_alike (closing : Bool) (ahead : Text)
    (claimed : ∀ first rest, ahead = first :: rest → TagName.isStart first →
      rule.isSome = rule'.isSome) :
    (tagBody options rule closing ahead).Alike (tagBody options rule' closing ahead) := by
  cases ahead with
  | nil => exact .refl _
  | cons first rest =>
      simp only [tagBody]
      split
      · exact .refl _
      · split
        · exact .refl _
        · rename_i _ starts
          split
          · exact .refl _
          · have same := claimed first rest rfl (by simpa using starts)
            cases rule with
            | none =>
                cases rule' with
                | none => exact .refl _
                | some rule' => cases same
            | some rule =>
                cases rule' with
                | none => cases same
                | some rule' => exact ⟨rfl, rfl, .some (.typeBrackets rule rule')⟩

theorem angleBracket_alike (ahead : Text)
    (claimed : ∀ first rest, ahead = first :: rest → TagName.isStart first →
      rule.isSome = rule'.isSome) :
    (angleBracket options rule ahead).Alike (angleBracket options rule' ahead) := by
  cases ahead with
  | nil => exact .refl _
  | cons b rest =>
      simp only [angleBracket]
      split
      · exact .refl _
      · split
        · rename_i isSlash
          have closes : tagBody options rule true rest = tagBody options rule' true rest := by
            cases rest <;> rfl
          rw [closes]
          exact .refl _
        · exact tagBody_alike false (b :: rest) claimed

/-- A step depends on what is behind through two questions only: whether the last
byte was a backslash, and whether a bracket before the start of a name is claimed. -/
theorem read_alike (mode : Mode) {previous previous' : Option UInt8} (ahead : Text)
    (escaped : (previous == some Byte.backslash) = (previous' == some Byte.backslash))
    (claimed : ∀ first rest, ahead = Byte.lessThan :: first :: rest → TagName.isStart first →
      rule.isSome = rule'.isSome) :
    (read options mode previous rule ahead).Alike (read options mode previous' rule' ahead) := by
  cases ahead with
  | nil => exact .refl _
  | cons b rest =>
      simp only [read]
      split
      · exact .refl _
      · split
        · exact .refl _
        · cases mode with
          | lineComment host => exact .refl _
          | blockComment host => exact .refl _
          | template depth => exact .refl _
          | quoted quote =>
              have closes : Lexer.quotedNext quote previous b =
                  Lexer.quotedNext quote previous' b := by
                simp only [Lexer.quotedNext, bne, escaped]
              simp only [closes]
              exact .refl _
          | code =>
              simp only
              split
              · rename_i bracket
                subst bracket
                have inside : (angleBracket options rule rest).Alike
                    (angleBracket options rule' rest) := by
                  apply angleBracket_alike
                  intro first tail cut starts
                  exact claimed first tail (by rw [cut]) starts
                exact inside.behind 1
              · exact .refl _

end Stride

/-! ## Lexers -/

/-- Lexers at corresponding places with the same text ahead, from which they will
not be told apart by what is behind. -/
structure Lexer.Alike (place : Position → Position → Prop) (l m : Lexer) : Prop where
  mode : l.mode = m.mode
  after : l.cursor.after = m.cursor.after
  sites : place l.cursor.position m.cursor.position
  escaped : (l.cursor.before.head? == some Byte.backslash) =
    (m.cursor.before.head? == some Byte.backslash)
  claimed : ∀ passed first rest,
    l.cursor.after = passed ++ Byte.lessThan :: first :: rest → TagName.isStart first →
    (classify (passed.reverse ++ l.cursor.before)).isSome =
      (classify (passed.reverse ++ m.cursor.before)).isSome

namespace Lexer

variable {l m : Lexer}

theorem Alike.stride (alike : l.Alike place m) (options : ScanOptions) :
    (l.stride options).Alike (m.stride options) := by
  rw [Lexer.stride, Lexer.stride, ← alike.mode, ← alike.after]
  apply Stride.read_alike _ _ alike.escaped
  intro first rest cut starts
  exact alike.claimed [] first rest cut starts

theorem Alike.advance (alike : l.Alike place m) (carried : Carried place) (count : Nat)
    (mode : Mode) :
    Alike place ⟨l.cursor.advance count, mode⟩ ⟨m.cursor.advance count, mode⟩ := by
  simp only [Cursor.advance_eq, ← alike.after]
  refine ⟨rfl, rfl, carried.past alike.sites _, ?_, ?_⟩
  · cases (l.cursor.after.take count).reverse with
    | nil => exact alike.escaped
    | cons b passed => rfl
  · intro passed first rest cut starts
    simp only at cut ⊢
    have whole : l.cursor.after =
        (l.cursor.after.take count ++ passed) ++ Byte.lessThan :: first :: rest := by
      rw [List.append_assoc, ← cut, List.take_append_drop]
    have further := alike.claimed _ first rest whole starts
    rwa [List.reverse_append, List.append_assoc, List.append_assoc] at further

/-- A step of like lexers finds like things and leaves the lexers alike. -/
theorem Alike.step (alike : l.Alike place m) (carried : Carried place) (options : ScanOptions) :
    Alike place (l.step options).1 (m.step options).1 ∧
      Option.Rel (Lexeme.Alike place) (l.step options).2 (m.step options).2 := by
  have strides := alike.stride options
  rw [step_eq_stride, step_eq_stride]
  refine ⟨?_, ?_⟩
  · rw [← strides.length, ← strides.mode]
    exact alike.advance carried _ _
  · simp only [Stride.land, Cursor.advance_eq, ← alike.after, ← strides.length,
      Position.past_offset]
    generalize (l.stride options).found = first, (m.stride options).found = second,
      strides.found = found
    cases found with
    | none => exact .none
    | some like =>
        cases like with
        | tag form name => exact .some (.tag form name _ alike.sites)
        | typeBrackets rule rule' => exact .some .typeBrackets

/-- Like lexers find like lexemes up to the end of the text. -/
theorem Alike.lexemesAhead (alike : l.Alike place m) (carried : Carried place)
    (options : ScanOptions) :
    List.Forall₂ (Lexeme.Alike place) (l.lexemesAhead options) (m.lexemesAhead options) := by
  apply lexemesAhead_forall₂ (Alike place) _ _ alike
  · intro l m alike
    rw [alike.after]
  · intro l m alike _
    exact alike.step carried options

end Lexer

/-! ## Stacks -/

/-- Open tags of one name, opened at corresponding places. -/
structure OpenTag.Alike (place : Position → Position → Prop) (t u : OpenTag) : Prop where
  name : t.name = u.name
  sites : place t.site u.site

/-- Nestings with corresponding stacks that have counted as much. -/
structure Nesting.Alike (place : Position → Position → Prop) (n m : Nesting) : Prop where
  entries : List.Forall₂ (OpenTag.Alike place) n.stack.entries m.stack.entries
  limit : n.stack.limit = m.stack.limit
  policy : n.stack.policy = m.stack.policy
  counted : n.tagsChecked = m.tagsChecked

/-- What comes of meeting like lexemes: like defects or like nestings. -/
inductive Nesting.MeetAlike (place : Position → Position → Prop) :
    Except Defect Nesting → Except Defect Nesting → Prop
  | error {d e : Defect} (defects : d.Alike place e) : MeetAlike place (.error d) (.error e)
  | ok {n m : Nesting} (alike : n.Alike place m) : MeetAlike place (.ok n) (.ok m)

namespace Nesting

variable {n m : Nesting}

theorem Alike.finish (alike : n.Alike place m) :
    Option.Rel (Defect.Alike place) n.stack.finish m.stack.finish := by
  rw [TagStack.finish_eq, TagStack.finish_eq, alike.entries.length_eq]
  generalize n.stack.entries = entries, m.stack.entries = entries', alike.entries = paired
  cases paired with
  | nil => exact .none
  | @cons innermost innermost' outer outer' like rest =>
      simp only [List.head?_cons, Option.map_some]
      rw [like.name]
      exact .some (.unclosed _ _ like.sites)

theorem Alike.openTag (alike : n.Alike place m) {form : TagForm} {name : String}
    {length : Nat} {site site' : Position} (sites : place site site') :
    MeetAlike place (n.openTag ⟨form, name, site, site.offset + length⟩)
      (m.openTag ⟨form, name, site', site'.offset + length⟩) := by
  have level : m.stack.entries.length = n.stack.entries.length := alike.entries.length_eq.symm
  by_cases room : n.stack.entries.length < n.stack.limit
  · have room' : m.stack.entries.length < m.stack.limit := by
      rwa [level, ← alike.limit]
    obtain ⟨s, pushed, entries, limit, policy⟩ := TagStack.push_of_room name site room
    obtain ⟨s', pushed', entries', limit', policy'⟩ := TagStack.push_of_room name site' room'
    have notFull : ¬ n.stack.isFull = true := fun full =>
      Nat.not_le_of_lt room (TagStack.isFull_iff.mp full)
    have notFull' : ¬ m.stack.isFull = true := fun full =>
      Nat.not_le_of_lt room' (TagStack.isFull_iff.mp full)
    simp only [Nesting.openTag, pushed, pushed', if_neg notFull, if_neg notFull']
    refine .ok ⟨?_, ?_, ?_, alike.counted⟩
    · simp only [report, entries, entries']
      exact .cons ⟨rfl, sites⟩ alike.entries
    · exact limit.trans (alike.limit.trans limit'.symm)
    · exact policy.trans (alike.policy.trans policy'.symm)
  · have full : n.stack.limit ≤ n.stack.entries.length := Nat.le_of_not_lt room
    have full' : m.stack.limit ≤ m.stack.entries.length := by
      rwa [level, ← alike.limit]
    simp only [Nesting.openTag, TagStack.push_of_full _ _ full, TagStack.push_of_full _ _ full',
      ← alike.policy, ← alike.limit]
    cases n.stack.policy with
    | fail => exact .error (.tooDeep _ sites)
    | truncate =>
        simp only [if_pos (TagStack.isFull_iff.mpr full), if_pos (TagStack.isFull_iff.mpr full')]
        exact .ok ⟨alike.entries, alike.limit, alike.policy, alike.counted⟩

theorem Alike.closeTag (alike : n.Alike place m) {form : TagForm} {name : String}
    {length : Nat} {site site' : Position} (sites : place site site') :
    MeetAlike place (n.closeTag ⟨form, name, site, site.offset + length⟩)
      (m.closeTag ⟨form, name, site', site'.offset + length⟩) := by
  simp only [Nesting.closeTag, Tag.span_eq]
  generalize cut : n.stack.entries = entries
  generalize cut' : m.stack.entries = entries'
  have paired := alike.entries
  rw [cut, cut'] at paired
  cases paired with
  | nil =>
      rw [TagStack.pop_of_empty _ _ _ cut, TagStack.pop_of_empty _ _ _ cut']
      exact .error (.unmatchedClose name length sites)
  | @cons innermost innermost' outer outer' like rest =>
      by_cases same : innermost.name = name
      · obtain ⟨s, popped, left, limit, policy⟩ :=
          TagStack.pop_of_match site ⟨site.offset, length⟩ cut same
        obtain ⟨s', popped', left', limit', policy'⟩ :=
          TagStack.pop_of_match site' ⟨site'.offset, length⟩ cut' (like.name ▸ same)
        rw [popped, popped']
        have closed (counted : Nat) (events events' : List Event) :
            Alike place ⟨s, counted, events⟩ ⟨s', counted, events'⟩ :=
          ⟨by rw [left, left']; exact rest, limit.trans (alike.limit.trans limit'.symm),
            policy.trans (alike.policy.trans policy'.symm), rfl⟩
        simp only [report, ← alike.counted]
        split
        · exact .ok (closed _ _ _)
        · exact .ok (closed _ _ _)
      · have other : innermost'.name ≠ name := like.name ▸ same
        rw [TagStack.pop_of_mismatch _ _ cut same, TagStack.pop_of_mismatch _ _ cut' other,
          like.name]
        exact .error (.mismatch _ name length like.sites sites)

theorem Alike.meet (alike : n.Alike place m) {x y : Lexeme} (lexemes : x.Alike place y) :
    MeetAlike place (n.meet x) (m.meet y) := by
  cases lexemes with
  | typeBrackets => exact .ok ⟨alike.entries, alike.limit, alike.policy, alike.counted⟩
  | tag form name length sites =>
      cases form with
      | opening => exact alike.openTag sites
      | closing => exact alike.closeTag sites
      | single =>
          exact .ok ⟨alike.entries, alike.limit, alike.policy, congrArg (· + 1) alike.counted⟩

/-- Like lexemes, met from like nestings, come to like outcomes. -/
theorem Alike.settle (alike : n.Alike place m) {xs ys : List Lexeme}
    (lexemes : List.Forall₂ (Lexeme.Alike place) xs ys) :
    (n.settle xs).Alike place (m.settle ys) := by
  induction lexemes generalizing n m with
  | nil => exact ⟨alike.counted, alike.finish⟩
  | @cons x y xs ys like rest ih =>
      simp only [Nesting.settle]
      generalize n.meet x = result, m.meet y = result', alike.meet like = met
      cases met with
      | error defects => exact ⟨alike.counted, .some defects⟩
      | ok alike' => exact ih alike'

end Nesting

/-- Scanners that are alike in both parts come to like outcomes. The lexers may be
related more narrowly than the tags that are open. -/
theorem Scanner.run_alike {near : Position → Position → Prop} {s t : Scanner}
    (carried : Carried near) (included : ∀ p q, near p q → place p q)
    (lexers : s.lexer.Alike near t.lexer) (nestings : s.nesting.Alike place t.nesting)
    (options : ScanOptions) : (s.run options).Alike place (t.run options) := by
  rw [run_eq_settle, run_eq_settle]
  apply nestings.settle
  apply (lexers.lexemesAhead carried options).imp
  intro x y like
  cases like with
  | typeBrackets => exact .typeBrackets
  | tag form name length sites => exact .tag form name length (included _ _ sites)

end TagCheck
