/-
# Reports at other offsets

The nesting compares names and counts tags; where the tags are it only hands on. If the
offsets of all lexemes are moved, the outcome is therefore the same with its offsets moved
(`Nesting.settle_moved`). Lines and columns stay as they are.

Offsets are looked at in one place: a closing tag is reported with its span, which is the
stretch between two of them. The move must not exchange those, so it has to be monotone.
-/

import Mathlib.Order.Monotone.Basic
import TagCheck.Proofs.StackLaws

namespace TagCheck

variable (move : Nat → Nat)

/-! ## What is moved -/

def Position.moved (p : Position) : Position := { p with offset := move p.offset }

/-- The span between the moved ends. -/
def Span.moved (s : Span) : Span := Span.between (move s.start) (move s.stop)

def Tag.moved (t : Tag) : Tag := { t with site := t.site.moved move, stop := move t.stop }

def Lexeme.moved : Lexeme → Lexeme
  | tag t => tag (t.moved move)
  | typeBrackets site rule => typeBrackets (site.moved move) rule

def Event.moved : Event → Event
  | pushed name site => pushed name (site.moved move)
  | popped name site => popped name (site.moved move)
  | dropped name site => dropped name (site.moved move)
  | typeBrackets site rule => typeBrackets (site.moved move) rule
  | event => event

def Defect.moved : Defect → Defect
  | unmatchedClose name site span => unmatchedClose name (site.moved move) (span.moved move)
  | mismatch expected openedAt found site span =>
      mismatch expected (openedAt.moved move) found (site.moved move) (span.moved move)
  | unclosed name site others => unclosed name (site.moved move) others
  | tooDeep limit site => tooDeep limit (site.moved move)
  | unreadable path reason => unreadable path reason
  | outOfMemory path => outOfMemory path

def OpenTag.moved (t : OpenTag) : OpenTag := { t with site := t.site.moved move }

def TagStack.moved (s : TagStack) : TagStack where
  entries := s.entries.map (OpenTag.moved move)
  limit := s.limit
  policy := s.policy
  depth := s.depth
  depth_eq := by rw [s.depth_eq, List.length_map]

def Nesting.moved (n : Nesting) : Nesting where
  stack := n.stack.moved move
  tagsChecked := n.tagsChecked
  reported := n.reported.map (Event.moved move)

def Outcome.moved (o : Outcome) : Outcome where
  tagsChecked := o.tagsChecked
  defect := o.defect.map (Defect.moved move)
  events := o.events.map (Event.moved move)

/-- A result of the nesting, with all offsets moved. -/
def movedResult {α : Type} (moveValue : α → α) (result : Except Defect α) : Except Defect α :=
  (result.mapError (Defect.moved move)).map moveValue

/-! ## The nesting -/

/-- A defect says the same elsewhere in the text: only lines and columns are written out. -/
theorem Defect.message_moved (d : Defect) : (d.moved move).message = d.message := by
  cases d <;> rfl

variable {move}

/-- The moved tag takes up the moved span. -/
theorem Tag.span_moved (monotone : Monotone move) (t : Tag) :
    (t.moved move).span = t.span.moved move := by
  change Span.between (move t.site.offset) (move t.stop) =
    Span.between (move t.site.offset) (move (t.site.offset + (t.stop - t.site.offset)))
  rcases Nat.le_total t.site.offset t.stop with forward | backward
  · rw [Nat.add_sub_cancel' forward]
  · have clipped : move t.stop - move t.site.offset = 0 :=
      Nat.sub_eq_zero_of_le (monotone backward)
    rw [Nat.sub_eq_zero_of_le backward, Nat.add_zero, Span.between, Span.between, clipped,
      Nat.sub_self]

variable (move)

namespace TagStack

variable (s : TagStack) (name : String) (site : Position)

theorem entries_moved : (s.moved move).entries = s.entries.map (OpenTag.moved move) := rfl

theorem push_moved :
    (s.moved move).push name (site.moved move) =
      movedResult move (TagStack.moved move) (s.push name site) := by
  have same : (s.moved move).isFull = s.isFull := rfl
  cases full : s.isFull with
  | false =>
      simp only [push, same, full]
      exact congrArg Except.ok (ext_of_entries rfl rfl rfl)
  | true =>
      have policy : (s.moved move).policy = s.policy := rfl
      simp only [push, same, full, policy]
      cases s.policy <;> rfl

theorem pop_moved (span : Span) :
    (s.moved move).pop name (site.moved move) (span.moved move) =
      movedResult move (Prod.map (OpenTag.moved move) (TagStack.moved move))
        (s.pop name site span) := by
  cases cut : s.entries with
  | nil =>
      have cut' : (s.moved move).entries = [] := by rw [entries_moved, cut, List.map_nil]
      rw [pop_of_empty _ _ _ cut, pop_of_empty _ _ _ cut']
      rfl
  | cons innermost outer =>
      have cut' : (s.moved move).entries =
          innermost.moved move :: outer.map (OpenTag.moved move) := by
        rw [entries_moved, cut, List.map_cons]
      by_cases same : innermost.name = name
      · obtain ⟨t, popped, left, limit, policy⟩ := pop_of_match site span cut same
        obtain ⟨t', popped', left', limit', policy'⟩ :=
          pop_of_match (site.moved move) (span.moved move) cut' same
        have same : t' = t.moved move := by
          refine ext_of_entries ?_ (limit'.trans limit.symm) (policy'.trans policy.symm)
          rw [left', entries_moved, left]
        rw [popped, popped', same]
        rfl
      · rw [pop_of_mismatch _ _ cut same, pop_of_mismatch _ _ cut' same]
        rfl

theorem finish_moved : (s.moved move).finish = s.finish.map (Defect.moved move) := by
  rw [finish_eq, finish_eq, entries_moved, List.head?_map, List.length_map, Option.map_map,
    Option.map_map]
  rfl

end TagStack

namespace Nesting

variable {move} (n : Nesting)

theorem openTag_moved (t : Tag) :
    (n.moved move).openTag (t.moved move) =
      movedResult move (Nesting.moved move) (n.openTag t) := by
  have same : (n.moved move).stack.isFull = n.stack.isFull := rfl
  have pushed : (n.moved move).stack.push (t.moved move).name (t.moved move).site =
      movedResult move (TagStack.moved move) (n.stack.push t.name t.site) :=
    n.stack.push_moved move t.name t.site
  simp only [openTag, pushed, same]
  cases n.stack.push t.name t.site with
  | error defect => rfl
  | ok stack => cases n.stack.isFull <;> rfl

theorem closeTag_moved (monotone : Monotone move) (t : Tag) :
    (n.moved move).closeTag (t.moved move) =
      movedResult move (Nesting.moved move) (n.closeTag t) := by
  have popped : (n.moved move).stack.pop (t.moved move).name (t.moved move).site
        (t.moved move).span =
      movedResult move (Prod.map (OpenTag.moved move) (TagStack.moved move))
        (n.stack.pop t.name t.site t.span) := by
    rw [t.span_moved monotone]
    exact n.stack.pop_moved move t.name t.site t.span
  have name : (t.moved move).name = t.name := rfl
  rw [closeTag, popped, closeTag, name]
  cases n.stack.pop t.name t.site t.span with
  | error defect => rfl
  | ok popped => cases t.name.isEmpty <;> rfl

theorem meet_moved (monotone : Monotone move) (lexeme : Lexeme) :
    (n.moved move).meet (lexeme.moved move) =
      movedResult move (Nesting.moved move) (n.meet lexeme) := by
  cases lexeme with
  | typeBrackets site rule => rfl
  | tag t =>
      have form : (t.moved move).form = t.form := rfl
      simp only [meet, Lexeme.moved, form]
      cases t.form with
      | single => rfl
      | opening => exact n.openTag_moved t
      | closing => exact n.closeTag_moved monotone t

theorem outcome_moved (defect : Option Defect) :
    (n.moved move).outcome (defect.map (Defect.moved move)) =
      (n.outcome defect).moved move := by
  simp only [outcome, Outcome.moved, Nesting.moved, List.map_reverse]

/-- Lexemes at moved offsets come to the outcome at moved offsets. -/
theorem settle_moved (monotone : Monotone move) (lexemes : List Lexeme) :
    (n.moved move).settle (lexemes.map (Lexeme.moved move)) =
      (n.settle lexemes).moved move := by
  induction lexemes generalizing n with
  | nil =>
      have finished : (n.moved move).stack.finish = n.stack.finish.map (Defect.moved move) :=
        n.stack.finish_moved move
      rw [List.map_nil, settle, settle, finished, outcome_moved]
  | cons lexeme rest ih =>
      simp only [List.map_cons, settle, n.meet_moved monotone lexeme]
      cases n.meet lexeme with
      | error defect => exact n.outcome_moved (some defect)
      | ok met => exact ih met

end Nesting
end TagCheck
