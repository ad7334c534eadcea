/-
# Log filters

A filter says how much detail is logged for which part of the program.  It is
written as directives with commas between them.

Of the plain directives about an event the one that tells most closely what it is about
decides.  An event that it leaves out is logged nevertheless if it happens in a batch
for which directives about contexts ask for as much detail.
-/

import TagCheck.Log.Directive
import TagCheck.Text.Pieces

namespace TagCheck.Log

/-- What is to be logged. -/
structure Filter where
  directives : List Directive
  deriving DecidableEq, Repr

namespace Filter

/-- The closest of the plain directives that meet a condition. -/
def closest? (f : Filter) (concerned : Directive → Bool) : Option Directive :=
  (f.directives.filter fun d => d.isPlain && concerned d).foldl
    (fun best directive =>
      match best with
      | none => some directive
      | some other => if directive.supersedes other then some directive else best)
    none

/-- The most detail that is asked for anywhere.  A demand on the value of a field counts
as everything, because the value is known only in the context. -/
def mostDetail (f : Filter) : Detail :=
  f.directives.foldl
    (fun detail d =>
      detail.max (if d.field.any (·.value.isSome) then .everything else d.detail))
    .nothing

/-- The directives about batches, without those that later ones replace. -/
def aboutBatches : List Directive → List Directive
  | [] => []
  | d :: rest =>
      let others := aboutBatches rest
      if !d.concernsBatches || others.any (·.replaces d) then others else d :: others

/-- How much detail is asked for in a batch; `none` if no directive is about batches. -/
def batchDetail? (f : Filter) (batch : Batch) : Option Detail :=
  match aboutBatches f.directives with
  | [] => none
  | directives =>
      some ((directives.filter (·.allowsBatch batch)).foldl
        (fun detail d => detail.max d.detail) .nothing)

/-- Whether the events of a batch are logged with the batch as their context. -/
def showsBatch (f : Filter) (batch : Batch) : Bool :=
  f.mostDetail.covers Batch.level &&
    ((f.batchDetail? batch).isSome ||
      (f.closest? fun d => d.concerns Batch.target).any (·.detail.covers Batch.level))

/-- Whether the filter asks for an event because of the batch in which it happens. -/
def asksInBatch (f : Filter) (batch : Batch) (level : Level) : Bool :=
  f.showsBatch batch && (f.batchDetail? batch).any (·.covers level)

/-- The names of the fields of an event, its message among them. -/
def fieldNames (event : Event) : List String := "message" :: event.fields.map (·.1)

/-- Whether an event that happens in a batch, or outside of batches, is to be logged. -/
def enables (f : Filter) (event : Event) (batch : Option Batch) : Bool :=
  (f.closest? fun d => d.concernsFields event.target (fieldNames event)).any
      (·.detail.covers event.level) ||
    batch.any fun batch => f.asksInBatch batch event.level

/-- The filter that a text describes, with complaints about the directives that had
to be left out. -/
def parse (text : String) : Filter × List String :=
  ((stringPieces ',' text).filter (· ≠ "")).foldl
    (fun (filter, complaints) part =>
      match Directive.parse part with
      | .ok directive => (⟨filter.directives ++ [directive]⟩, complaints)
      | .error problem =>
          (filter, complaints ++ ["ignoring `" ++ part ++ "`: " ++ problem.message]))
    (⟨[]⟩, [])

end Filter

end TagCheck.Log
