/-
# Exchanging a stretch of text

Two texts differ in one stretch: `pre ++ region ++ post` and `pre ++ region' ++ post`.
If both runs get past the stretch without finding anything in it, they are then at
corresponding places, with the same text ahead and the same stack. They come to
like outcomes as long as the stretches look the same from behind
(`Passes.scan_alike`).
-/

import TagCheck.Proofs.Correspondence
import TagCheck.Proofs.Lookahead

namespace TagCheck

/-- Where a position is found again when one stretch is exchanged for another. -/
def Resited (pre region region' : Text) (p q : Position) : Prop :=
  p.offset < pre.length ∧ q = p ∨
    (pre ++ region).length ≤ p.offset ∧ q.offset + region.length = p.offset + region'.length

/-- Behind both stretches, passing the same bytes keeps the distance. -/
theorem carried_behind (pre region region' : Text) :
    Carried fun p q => (pre ++ region).length ≤ p.offset ∧
      q.offset + region.length = p.offset + region'.length := by
  intro p q b ⟨behind, moved⟩
  rw [Position.next_offset, Position.next_offset]
  omega

/-- A run over `pre ++ region ++ post` that is at `s` before the region and, with
nothing met on the way, in code at `t` behind it. -/
structure Passes (options : ScanOptions) (pre region post : Text) (s t : Scanner) : Prop where
  visits : Scanner.Visits options (pre ++ region ++ post) s
  entry : s.offset = pre.length
  reaches : Scanner.Reaches options s t
  ending : t.offset = (pre ++ region).length
  inCode : t.mode = .code
  kept : t.nesting = s.nesting

namespace Passes

open Scanner

variable {options : ScanOptions} {pre region region' post : Text} {s t s' t' : Scanner}

theorem comes (passes : Passes options pre region post s t) :
    Visits options (pre ++ region ++ post) t :=
  passes.visits.trans passes.reaches

theorem before (passes : Passes options pre region post s t) :
    t.lexer.cursor.before = (pre ++ region).reverse := by
  rw [passes.comes.cut.1, passes.ending, List.take_left]

theorem ahead (passes : Passes options pre region post s t) : t.ahead = post := by
  rw [passes.comes.cut.2.1, passes.ending, List.drop_left]

theorem scan_eq (passes : Passes options pre region post s t) :
    scan options (pre ++ region ++ post) = t.run options := by
  rw [← run_start, Reaches.run_eq passes.comes]

/-- The run comes to both stretches in the same way if they begin with the same
byte. -/
theorem nesting_eq {next : UInt8} {tail tail' : Text}
    (passes : Passes options pre (next :: tail) post s t)
    (passes' : Passes options pre (next :: tail') post s' t') : s'.nesting = s.nesting := by
  have visits := passes.visits
  have visits' := passes'.visits
  rw [List.append_assoc] at visits visits'
  rw [Visits.eq_withAhead visits visits' passes.entry passes'.entry]
  rfl

/-- What is open where the stretch begins is so at the same places in both runs. -/
theorem nestings_alike (passes : Passes options pre region post s t)
    (passes' : Passes options pre region' post s' t') (same : s'.nesting = s.nesting) :
    t.nesting.Alike (Resited pre region region') t'.nesting := by
  rw [passes.kept, passes'.kept, same]
  refine ⟨List.forall₂_same.mpr ?_, rfl, rfl, rfl⟩
  intro e among
  obtain ⟨u, _, earlier, site⟩ := passes.visits.open_site among
  refine ⟨rfl, .inl ⟨?_, rfl⟩⟩
  rw [site, ← passes.entry]
  exact earlier

/-- Stretches that are passed and look the same from behind can be exchanged. -/
theorem scan_alike (passes : Passes options pre region post s t)
    (passes' : Passes options pre region' post s' t') (same : s'.nesting = s.nesting)
    (last : (pre ++ region).getLast? = (pre ++ region').getLast?)
    (claimed : ∀ near first rest, post = near ++ Byte.lessThan :: first :: rest →
      TagName.isStart first →
      (classify (near.reverse ++ (pre ++ region).reverse)).isSome =
        (classify (near.reverse ++ (pre ++ region').reverse)).isSome) :
    (scan options (pre ++ region ++ post)).Alike (Resited pre region region')
      (scan options (pre ++ region' ++ post)) := by
  rw [passes.scan_eq, passes'.scan_eq]
  apply run_alike (carried_behind pre region region') (fun p q => .inr) _
    (passes.nestings_alike passes' same)
  have moved : t'.offset + region.length = t.offset + region'.length := by
    rw [passes.ending, passes'.ending, List.length_append, List.length_append]
    omega
  refine ⟨passes.inCode.trans passes'.inCode.symm, passes.ahead.trans passes'.ahead.symm,
    ⟨Nat.le_of_eq passes.ending.symm, moved⟩, ?_, ?_⟩
  · rw [passes.before, passes'.before, List.head?_reverse, List.head?_reverse, last]
  · intro near first rest cut starts
    rw [passes.before, passes'.before]
    exact claimed near first rest (passes.ahead.symm.trans cut) starts

end Passes
end TagCheck
