/-
# Laws of the stack of open tags

One law for each way an operation on the stack can go, in terms of the entries
alone. The stored depth is no news (`isFull_iff`), so nothing further on needs to
mention it. What the nesting makes of a tag that it can meet follows from them.
-/

import TagCheck.Markup.Nesting

namespace TagCheck

namespace TagStack

variable {s : TagStack}

theorem isFull_iff : s.isFull = true ↔ s.limit ≤ s.entries.length := by
  rw [isFull, decide_eq_true_iff, s.depth_eq]

theorem push_of_room (name : String) (site : Position) (room : s.entries.length < s.limit) :
    ∃ t : TagStack, s.push name site = .ok t ∧ t.entries = ⟨name, site⟩ :: s.entries ∧
      t.limit = s.limit ∧ t.policy = s.policy := by
  have notFull : ¬ s.isFull = true := fun full => Nat.not_le_of_lt room (isFull_iff.mp full)
  rw [push, if_neg notFull]
  exact ⟨_, rfl, rfl, rfl, rfl⟩

theorem push_of_full (name : String) (site : Position) (full : s.limit ≤ s.entries.length) :
    s.push name site =
      match s.policy with
      | .fail => .error (.tooDeep s.limit site)
      | .truncate => .ok s := by
  unfold push
  exact if_pos (isFull_iff.mpr full)

theorem pop_of_empty (name : String) (site : Position) (span : Span) (nothing : s.entries = []) :
    s.pop name site span = .error (.unmatchedClose name site span) := by
  unfold pop
  split
  · rfl
  · rename_i filled
    rw [nothing] at filled
    cases filled

theorem pop_of_match {name : String} {innermost : OpenTag} {outer : List OpenTag}
    (site : Position) (span : Span)
    (filled : s.entries = innermost :: outer) (same : innermost.name = name) :
    ∃ t : TagStack, s.pop name site span = .ok (innermost, t) ∧ t.entries = outer ∧
      t.limit = s.limit ∧ t.policy = s.policy := by
  unfold pop
  split
  · rename_i nothing
    rw [filled] at nothing
    cases nothing
  · rename_i front
    rw [filled] at front
    obtain ⟨rfl, rfl⟩ := List.cons.inj front
    rw [if_pos same]
    exact ⟨_, rfl, rfl, rfl, rfl⟩

theorem pop_of_mismatch {name : String} {innermost : OpenTag} {outer : List OpenTag}
    (site : Position) (span : Span)
    (filled : s.entries = innermost :: outer) (other : innermost.name ≠ name) :
    s.pop name site span = .error (.mismatch innermost.name innermost.site name site span) := by
  unfold pop
  split
  · rename_i nothing
    rw [filled] at nothing
    cases nothing
  · rename_i front
    rw [filled] at front
    obtain ⟨rfl, rfl⟩ := List.cons.inj front
    rw [if_neg other]

/-- A closing tag without a name closes a fragment, and no other does. -/
theorem isFragment_of_pop {name : String} {site : Position} {span : Span} {closed : OpenTag}
    {outer : TagStack} (popped : s.pop name site span = .ok (closed, outer)) :
    closed.isFragment = name.isEmpty := by
  unfold pop at popped
  split at popped
  · cases popped
  · split at popped
    · rename_i same
      cases popped
      rw [OpenTag.isFragment, same]
    · cases popped

theorem finish_eq : s.finish = s.entries.head?.map fun innermost =>
    .unclosed innermost.name innermost.site (s.entries.length - 1) := by
  unfold finish
  split
  · rename_i nothing
    rw [nothing]
    rfl
  · rename_i filled
    rw [filled]
    rfl

end TagStack

namespace Nesting

variable {n : Nesting} {t : Tag}

theorem meet_of_opening (form : t.form = .opening)
    (room : n.stack.entries.length < n.stack.limit) :
    ∃ m, n.meet (.tag t) = .ok m ∧ m.stack.entries = ⟨t.name, t.site⟩ :: n.stack.entries ∧
      m.stack.limit = n.stack.limit ∧ m.stack.policy = n.stack.policy ∧
      m.tagsChecked = n.tagsChecked := by
  have notFull : ¬ n.stack.isFull = true := fun full =>
    Nat.not_le_of_lt room (TagStack.isFull_iff.mp full)
  obtain ⟨stack, pushed, entries, limit, policy⟩ := TagStack.push_of_room t.name t.site room
  refine ⟨report { n with stack := stack } (.pushed t.name t.site), ?_, entries, limit, policy,
    rfl⟩
  simp only [meet, form, openTag, pushed, if_neg notFull]

theorem meet_of_closing {innermost : OpenTag} {outer : List OpenTag} (form : t.form = .closing)
    (filled : n.stack.entries = innermost :: outer) (same : innermost.name = t.name) :
    ∃ m, n.meet (.tag t) = .ok m ∧ m.stack.entries = outer ∧
      m.stack.limit = n.stack.limit ∧ m.stack.policy = n.stack.policy ∧
      m.tagsChecked = n.tagsChecked + if t.name.isEmpty then 0 else 1 := by
  obtain ⟨stack, popped, entries, limit, policy⟩ :=
    TagStack.pop_of_match t.site t.span filled same
  have met : n.meet (.tag t) = .ok
      (if t.name.isEmpty then report { n with stack := stack } (.popped t.name t.site)
        else (report { n with stack := stack } (.popped t.name t.site)).count) := by
    simp only [meet, form, closeTag, popped]
  by_cases unnamed : t.name.isEmpty = true
  · rw [if_pos unnamed] at met ⊢
    exact ⟨_, met, entries, limit, policy, rfl⟩
  · rw [if_neg unnamed] at met ⊢
    exact ⟨_, met, entries, limit, policy, rfl⟩

/-- All that meeting a lexeme can come to when nothing is wrong with it. -/
inductive Meets (n : Nesting) : Lexeme → Nesting → Prop
  | typeBrackets (site : Position) (rule : Rule) :
      Meets n (.typeBrackets site rule) (n.report (.typeBrackets site rule.name))
  | recorded {t : Tag} {stack : TagStack} (opens : t.form = .opening)
      (room : n.stack.entries.length < n.stack.limit)
      (entries : stack.entries = ⟨t.name, t.site⟩ :: n.stack.entries)
      (limit : stack.limit = n.stack.limit) (policy : stack.policy = n.stack.policy) :
      Meets n (.tag t) ⟨stack, n.tagsChecked, .pushed t.name t.site :: n.reported⟩
  | dropped {t : Tag} (opens : t.form = .opening)
      (full : n.stack.limit ≤ n.stack.entries.length)
      (truncates : n.stack.policy = .truncate) :
      Meets n (.tag t) (n.report (.dropped t.name t.site))
  | closed {t : Tag} {stack : TagStack} {innermost : OpenTag} (closes : t.form = .closing)
      (filled : n.stack.entries = innermost :: stack.entries) (named : innermost.name = t.name)
      (limit : stack.limit = n.stack.limit) (policy : stack.policy = n.stack.policy) :
      Meets n (.tag t) ⟨stack, n.tagsChecked + if t.name.isEmpty then 0 else 1,
        .popped t.name t.site :: n.reported⟩
  | single {t : Tag} (alone : t.form = .single) : Meets n (.tag t) n.count

theorem meets_of_meet {m : Nesting} {lexeme : Lexeme} (met : n.meet lexeme = .ok m) :
    n.Meets lexeme m := by
  cases lexeme with
  | typeBrackets site rule =>
      cases met
      exact .typeBrackets site rule
  | tag t =>
      cases form : t.form with
      | single =>
          simp only [meet, form] at met
          cases met
          exact .single form
      | opening =>
          simp only [meet, form, openTag] at met
          by_cases room : n.stack.entries.length < n.stack.limit
          · have notFull : ¬ n.stack.isFull = true := fun full =>
              Nat.not_le_of_lt room (TagStack.isFull_iff.mp full)
            obtain ⟨stack, pushed, entries, limit, policy⟩ :=
              TagStack.push_of_room t.name t.site room
            simp only [pushed, if_neg notFull] at met
            cases met
            exact .recorded form room entries limit policy
          · have full : n.stack.limit ≤ n.stack.entries.length := Nat.le_of_not_lt room
            simp only [TagStack.push_of_full _ _ full] at met
            cases policy : n.stack.policy with
            | fail =>
                rw [policy] at met
                cases met
            | truncate =>
                simp only [policy, if_pos (TagStack.isFull_iff.mpr full)] at met
                cases met
                exact .dropped form full policy
      | closing =>
          simp only [meet, form, closeTag] at met
          cases filled : n.stack.entries with
          | nil =>
              rw [TagStack.pop_of_empty _ _ _ filled] at met
              cases met
          | cons innermost outer =>
              by_cases same : innermost.name = t.name
              · obtain ⟨stack, popped, entries, limit, policy⟩ :=
                  TagStack.pop_of_match t.site t.span filled same
                have closed : m = ⟨stack, n.tagsChecked + if t.name.isEmpty then 0 else 1,
                    .popped t.name t.site :: n.reported⟩ := by
                  rw [popped] at met
                  cases met
                  split <;> rfl
                rw [closed]
                exact .closed form (by rw [filled, entries]) same limit policy
              · rw [TagStack.pop_of_mismatch _ _ filled same] at met
                cases met

/-- A tag that cannot be met is a closing tag, where nothing is open or where the innermost
open tag bears another name, or an opening tag where the limit is reached. -/
theorem meet_eq_error {defect : Defect} (failed : n.meet (.tag t) = .error defect) :
    t.form = .closing ∧
        (n.stack.entries = [] ∧ defect = .unmatchedClose t.name t.site t.span ∨
          ∃ innermost outer, n.stack.entries = innermost :: outer ∧
            defect = .mismatch innermost.name innermost.site t.name t.site t.span) ∨
      t.form = .opening ∧ n.stack.policy = .fail ∧ defect = .tooDeep n.stack.limit t.site := by
  cases form : t.form with
  | single =>
      simp only [meet, form] at failed
      cases failed
  | opening =>
      simp only [meet, form, openTag] at failed
      by_cases room : n.stack.entries.length < n.stack.limit
      · obtain ⟨s, pushed, _⟩ := TagStack.push_of_room t.name t.site room
        rw [pushed] at failed
        simp only at failed
        split at failed
        · cases failed
        · cases failed
      · rw [TagStack.push_of_full _ _ (Nat.le_of_not_lt room)] at failed
        cases policy : n.stack.policy with
        | fail =>
            rw [policy] at failed
            cases failed
            exact .inr ⟨rfl, rfl, rfl⟩
        | truncate =>
            rw [policy] at failed
            simp only at failed
            split at failed
            · cases failed
            · cases failed
  | closing =>
      simp only [meet, form, closeTag] at failed
      refine .inl ⟨rfl, ?_⟩
      cases filled : n.stack.entries with
      | nil =>
          rw [TagStack.pop_of_empty _ _ _ filled] at failed
          cases failed
          exact .inl ⟨rfl, rfl⟩
      | cons innermost outer =>
          by_cases same : innermost.name = t.name
          · obtain ⟨s, popped, _⟩ := TagStack.pop_of_match t.site t.span filled same
            rw [popped] at failed
            cases failed
          · rw [TagStack.pop_of_mismatch _ _ filled same] at failed
            cases failed
            exact .inr ⟨innermost, outer, rfl, rfl⟩

end Nesting
end TagCheck
