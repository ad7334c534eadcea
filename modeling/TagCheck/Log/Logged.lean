/-
# Results with events

What a function finds out, together with the events it reports on the way, in the
order in which they happened.
-/

import TagCheck.Log.Event

namespace TagCheck

/-- A result together with the events reported on the way to it. -/
structure Logged (α : Type) where
  value : α
  events : List Event := []
  deriving DecidableEq, Repr

namespace Logged

/-- Go on with a result; events of the first part come first. -/
def andThen {α β : Type} (first : Logged α) (next : α → Logged β) : Logged β :=
  let second := next first.value
  ⟨second.value, first.events ++ second.events⟩

/-- Turn a result into another without further events. -/
def map {α β : Type} (f : α → β) (found : Logged α) : Logged β :=
  ⟨f found.value, found.events⟩

end Logged

end TagCheck
