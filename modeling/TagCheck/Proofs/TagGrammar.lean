/-
# The grammar of nested tags

What it means for tags to nest, said without a stack. `WellNested` is the usual
grammar of bracketed sequences, with tags that are elements on their own. Any
sequence whose closing tags all fit is a well-nested one interrupted by opening
tags that nothing has closed yet; `Pending` names those tags, innermost last.

`openAfter` computes the pending tags. It is used here to show that they are
determined by the sequence (`Pending.unique`) and that in a well-nested sequence
every closing tag fits where it stands (`WellNested.fits`).
-/

import Mathlib.Data.List.Induction
import TagCheck.Markup.Lexer

namespace TagCheck

/-- Tags in which every element that is opened is closed again by its own name. -/
inductive WellNested : List Tag → Prop
  | nil : WellNested []
  | single {t : Tag} {rest : List Tag} (alone : t.form = .single) (follows : WellNested rest) :
      WellNested (t :: rest)
  | element {opener closer : Tag} {inner rest : List Tag} (opens : opener.form = .opening)
      (closes : closer.form = .closing) (named : opener.name = closer.name)
      (inside : WellNested inner) (follows : WellNested rest) :
      WellNested (opener :: inner ++ closer :: rest)

/-- `Pending tags pending`: the closing tags among `tags` all fit, and `pending`
are the opening tags they leave open, innermost last. -/
inductive Pending : List Tag → List Tag → Prop
  | closed {tags : List Tag} (nested : WellNested tags) : Pending tags []
  | opened {tags pending inner : List Tag} {opener : Tag} (earlier : Pending tags pending)
      (opens : opener.form = .opening) (nested : WellNested inner) :
      Pending (tags ++ opener :: inner) (pending ++ [opener])

/-- Whether a tag can be met when `pending` are open, if any number may be open. -/
def Tag.Fits (t : Tag) (pending : List Tag) : Prop :=
  t.form = .closing → pending.getLast?.map (·.name) = some t.name

instance (t : Tag) (pending : List Tag) : Decidable (t.Fits pending) :=
  inferInstanceAs (Decidable (_ → _))

/-- What is open once a fitting tag is met. -/
def pendingNext (pending : List Tag) (t : Tag) : List Tag :=
  match t.form with
  | .opening => pending ++ [t]
  | .closing => pending.dropLast
  | .single => pending

/-- What is open once tags are met, if all of them fit. -/
def openAfter (pending : List Tag) : List Tag → Option (List Tag)
  | [] => some pending
  | t :: rest => if t.Fits pending then openAfter (pendingNext pending t) rest else none

theorem openAfter_cons {pending : List Tag} {t : Tag} (fits : t.Fits pending)
    (rest : List Tag) :
    openAfter pending (t :: rest) = openAfter (pendingNext pending t) rest :=
  if_pos fits

theorem fits_of_openAfter {pending rest left : List Tag} {t : Tag}
    (met : openAfter pending (t :: rest) = some left) : t.Fits pending := by
  by_contra misfit
  rw [openAfter, if_neg misfit] at met
  cases met

namespace WellNested

theorem append {first second : List Tag} (left : WellNested first) (right : WellNested second) :
    WellNested (first ++ second) := by
  induction left with
  | nil => exact right
  | single alone _ ih => exact .single alone ih
  | element opens closes named inside _ _ ih =>
      rw [List.append_assoc]
      exact .element opens closes named inside ih

/-- Well-nested tags leave open what was open. -/
theorem openAfter_append {tags : List Tag} (nested : WellNested tags) (pending rest : List Tag) :
    openAfter pending (tags ++ rest) = openAfter pending rest := by
  induction nested generalizing pending rest with
  | nil => rfl
  | @single t tags alone _ ih =>
      have fits : t.Fits pending := fun closes => by rw [alone] at closes; cases closes
      rw [List.cons_append, openAfter_cons fits, pendingNext, alone]
      exact ih pending rest
  | @element opener closer inner tags opens closes named _ _ inside follows =>
      have starts : opener.Fits pending := fun closes => by rw [opens] at closes; cases closes
      have ends : closer.Fits (pending ++ [opener]) := fun _ => by
        rw [List.getLast?_concat, Option.map_some, named]
      rw [List.append_assoc, List.cons_append, openAfter_cons starts, pendingNext, opens,
        inside, List.cons_append, openAfter_cons ends, pendingNext, closes,
        List.dropLast_concat]
      exact follows pending rest

end WellNested

namespace Pending

theorem openAfter_append {tags pending : List Tag} (given : Pending tags pending)
    (rest : List Tag) : openAfter [] (tags ++ rest) = openAfter pending rest := by
  induction given generalizing rest with
  | closed nested => exact nested.openAfter_append [] rest
  | @opened tags pending inner opener _ opens nested ih =>
      have starts : opener.Fits pending := fun closes => by rw [opens] at closes; cases closes
      rw [List.append_assoc, ih, List.cons_append, openAfter_cons starts, pendingNext, opens]
      exact nested.openAfter_append _ rest

theorem openAfter_eq {tags pending : List Tag} (given : Pending tags pending) :
    openAfter [] tags = some pending := by
  have whole := given.openAfter_append []
  rwa [List.append_nil] at whole

/-- Tags determine which of them are left open. -/
theorem unique {tags first second : List Tag} (left : Pending tags first)
    (right : Pending tags second) : first = second :=
  Option.some.inj (left.openAfter_eq.symm.trans right.openAfter_eq)

theorem wellNested {tags pending : List Tag} (given : Pending tags pending)
    (nothing : pending = []) : WellNested tags := by
  cases given with
  | closed nested => exact nested
  | opened => exact absurd nothing (List.append_ne_nil_of_right_ne_nil _ (List.cons_ne_nil _ _))

/-- Well-nested tags can follow. -/
theorem append {tags pending more : List Tag} (given : Pending tags pending)
    (nested : WellNested more) : Pending (tags ++ more) pending := by
  cases given with
  | closed before => exact .closed (before.append nested)
  | opened earlier opens inner =>
      rw [List.append_assoc, List.cons_append]
      exact .opened earlier opens (inner.append nested)

/-- Meeting one more tag that fits. -/
theorem next {tags pending : List Tag} {t : Tag} (given : Pending tags pending)
    (fits : t.Fits pending) : Pending (tags ++ [t]) (pendingNext pending t) := by
  cases form : t.form with
  | opening =>
      rw [pendingNext, form]
      exact .opened given form .nil
  | single =>
      rw [pendingNext, form]
      exact given.append (.single form .nil)
  | closing =>
      have named := fits form
      rw [pendingNext, form]
      cases given with
      | closed => cases named
      | @opened tags pending inner opener earlier opens nested =>
          rw [List.getLast?_concat, Option.map_some, Option.some.injEq] at named
          have element : WellNested (opener :: inner ++ t :: []) :=
            .element opens form named nested .nil
          simp only [List.dropLast_concat, List.append_assoc]
          exact earlier.append element

end Pending

/-- In well-nested tags every tag fits what is open where it stands. -/
theorem WellNested.fits {tags earlier later pending : List Tag} {t : Tag}
    (nested : WellNested tags) (cut : tags = earlier ++ t :: later)
    (given : Pending earlier pending) : t.Fits pending := by
  have whole := (Pending.closed nested).openAfter_eq
  rw [cut, given.openAfter_append] at whole
  exact fits_of_openAfter whole

/-! ## Counting -/

def openings (tags : List Tag) : Nat := tags.countP (·.form = .opening)

def closings (tags : List Tag) : Nat := tags.countP (·.form = .closing)

def singles (tags : List Tag) : Nat := tags.countP (·.form = .single)

/-- Opening tags of elements; those of fragments have no name. -/
def namedOpenings (tags : List Tag) : Nat :=
  tags.countP fun t => t.form = .opening && !t.name.isEmpty

def namedClosings (tags : List Tag) : Nat :=
  tags.countP fun t => t.form = .closing && !t.name.isEmpty

/-- Among well-nested tags as many open as close, by whatever names. -/
theorem WellNested.countP_eq {tags : List Tag} (nested : WellNested tags) (p : String → Bool) :
    tags.countP (fun t => t.form = .opening && p t.name) =
      tags.countP (fun t => t.form = .closing && p t.name) := by
  induction nested with
  | nil => rfl
  | single alone _ ih => simp [alone, ih]
  | element opens closes named _ _ inside follows =>
      simp only [List.cons_append, List.countP_cons, List.countP_append, opens, closes, named,
        inside, follows]
      simp
      omega

theorem WellNested.openings_eq {tags : List Tag} (nested : WellNested tags) :
    openings tags = closings tags := by
  have counted := nested.countP_eq fun _ => true
  simp only [Bool.and_true] at counted
  exact counted

theorem WellNested.namedOpenings_eq {tags : List Tag} (nested : WellNested tags) :
    namedOpenings tags = namedClosings tags :=
  nested.countP_eq (!·.isEmpty)

/-- What is pending is what has been opened and not closed. -/
theorem Pending.openings_eq {tags pending : List Tag} (given : Pending tags pending) :
    openings tags = closings tags + pending.length := by
  induction given with
  | closed nested => exact nested.openings_eq
  | opened _ opens nested ih =>
      have inner := nested.openings_eq
      unfold openings closings at ih inner ⊢
      simp [opens, ih, inner]
      omega

end TagCheck
