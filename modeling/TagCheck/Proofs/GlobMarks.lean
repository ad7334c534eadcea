/-
# What globs keep

A glob is matched by moving marks, and there are only a few ways to move them. Whatever
those keep between the marks of one or more texts is kept by every glob (`passAll_keeps`).
So a glob does not depend on what stands in front of the marks (`passAll_cons`), it marks
nothing if nothing is marked (`passAll_none`), and from the marks of two sets it marks what
it marks from either of them (`passAll_either`).
-/

import TagCheck.Glob.Matching

namespace TagCheck

namespace Marks

/-- The ways to move marks keep a relation between marks of these texts. -/
structure Keeps {ι : Type} (texts : ι → Text) (R : (ι → Marks) → Prop) : Prop where
  none : R fun i => none (texts i)
  either (first second : ι → Marks) (holds : R first) (holds' : R second) :
    R fun i => either (first i) (second i)
  across (test : UInt8 → Bool) (marks : ι → Marks) (holds : R marks) :
    R fun i => across test (texts i) (marks i)
  spread (marks : ι → Marks) (holds : R marks) : R fun i => spread (marks i)

theorem Keeps.acrossAll {ι : Type} {texts : ι → Text} {R : (ι → Marks) → Prop}
    (keeps : Keeps texts R) (bytes : List UInt8) (marks : ι → Marks) (holds : R marks) :
    R fun i => acrossAll bytes (texts i) (marks i) := by
  induction bytes generalizing marks with
  | nil => exact holds
  | cons b bytes ih => exact ih _ (keeps.across (· == b) marks holds)

theorem across_none (test : UInt8 → Bool) (text : Text) :
    across test text (none text) = none text := by
  rw [across, none]
  apply congrArg (List.cons false)
  induction text with
  | nil => rfl
  | cons b text ih => exact congrArg (List.cons false) ih

theorem spread_none (text : Text) : spread (none text) = none text := by
  rw [spread, none]
  change false :: spreadFrom false _ = _
  apply congrArg (List.cons false)
  induction text with
  | nil => rfl
  | cons b text ih => exact congrArg (List.cons false) ih

theorem either_self (marks : Marks) : either marks marks = marks := by
  rw [either, List.zipWith_self]
  simp

theorem keeps_none (text : Text) :
    Keeps (fun _ : Unit => text) fun marks => marks () = none text where
  none := rfl
  either first second holds holds' := by simp only [holds, holds', either_self]
  across test marks holds := by simp only [holds, across_none]
  spread marks holds := by simp only [holds, spread_none]

theorem keeps_cons (b : UInt8) (text : Text) :
    Keeps (fun behind => bif behind then text else b :: text) fun marks =>
      marks false = false :: marks true where
  none := rfl
  either first second holds holds' := by
    simp only [holds, holds']
    rfl
  across test marks holds := by
    simp only [holds]
    rfl
  spread marks holds := by
    simp only [holds]
    rfl

theorem spreadFrom_either (marked marked' : Bool) (first second : Marks) :
    spreadFrom (marked || marked') (either first second) =
      either (spreadFrom marked first) (spreadFrom marked' second) := by
  induction first generalizing marked marked' second with
  | nil => rfl
  | cons mark first ih =>
      cases second with
      | nil => rfl
      | cons mark' second =>
          have next : (marked || marked' || (mark || mark')) =
              (marked || mark || (marked' || mark')) := by ac_rfl
          change (marked || marked' || (mark || mark')) :: spreadFrom _ (either first second) = _
          rw [next, ih]
          rfl

theorem either_either_comm (a b c d : Marks) :
    either (either a b) (either c d) = either (either a c) (either b d) := by
  induction a generalizing b c d with
  | nil => simp [either]
  | cons mark a ih =>
      cases b with
      | nil => simp [either]
      | cons mark' b =>
          cases c with
          | nil => simp [either]
          | cons further c =>
              cases d with
              | nil => simp [either]
              | cons another d => exact List.cons_eq_cons.mpr ⟨by ac_rfl, ih b c d⟩

theorem across_either (test : UInt8 → Bool) (text : Text) (first second : Marks) :
    across test text (either first second) =
      either (across test text first) (across test text second) := by
  apply congrArg (List.cons false)
  induction text generalizing first second with
  | nil => rfl
  | cons b text ih =>
      cases first with
      | nil => rfl
      | cons mark first =>
          cases second with
          | nil => simp [either]
          | cons mark' second =>
              exact List.cons_eq_cons.mpr ⟨Bool.and_or_distrib_right .., ih first second⟩

theorem keeps_either (text : Text) :
    Keeps (fun _ : Option Bool => text) fun marks =>
      marks .none = either (marks (some true)) (marks (some false)) where
  none := (either_self _).symm
  either first second holds holds' := by simp only [holds, holds', either_either_comm]
  across test marks holds := by simp only [holds, across_either]
  spread marks holds := by
    simp only [holds]
    exact spreadFrom_either false false _ _

end Marks

namespace GlobToken

open Marks

section Kept

variable {ι : Type} {texts : ι → Text} {R : (ι → Marks) → Prop}

mutual

theorem pass_keeps (keeps : Keeps texts R) (token : GlobToken) (marks : ι → Marks)
    (holds : R marks) : R fun i => pass (texts i) (marks i) token := by
  cases token with
  | literal c => exact keeps.acrossAll (charBytes c) marks holds
  | anyByte => exact keeps.across _ marks holds
  | anyBytes => exact keeps.spread marks holds
  | leadingFolders =>
      exact keeps.either _ _ holds (keeps.across _ _ (keeps.spread marks holds))
  | innerFolders =>
      have behind := keeps.across (· == Byte.slash) marks holds
      exact keeps.either _ _ behind (keeps.across _ _ (keeps.spread _ behind))
  | trailingFolders => exact keeps.spread _ (keeps.across _ marks holds)
  | charClass negated ranges => exact keeps.across _ marks holds
  | alternatives branches =>
      simp only [pass]
      split
      · exact holds
      · exact passAny_keeps keeps branches marks holds

theorem passAll_keeps (keeps : Keeps texts R) (tokens : List GlobToken) (marks : ι → Marks)
    (holds : R marks) : R fun i => passAll (texts i) (marks i) tokens := by
  cases tokens with
  | nil => exact holds
  | cons token tokens => exact passAll_keeps keeps tokens _ (pass_keeps keeps token marks holds)

theorem passAny_keeps (keeps : Keeps texts R) (branches : List (List GlobToken))
    (marks : ι → Marks) (holds : R marks) : R fun i => passAny (texts i) (marks i) branches := by
  cases branches with
  | nil => exact keeps.none
  | cons branch branches =>
      simp only [passAny]
      split
      · exact passAny_keeps keeps branches marks holds
      · exact keeps.either _ _ (passAll_keeps keeps branch marks holds)
          (passAny_keeps keeps branches marks holds)

end

end Kept

/-- Where nothing is marked, nothing gets marked. -/
theorem passAll_none (text : Text) (tokens : List GlobToken) :
    passAll text (Marks.none text) tokens = Marks.none text :=
  passAll_keeps (keeps_none text) tokens (fun _ => Marks.none text) rfl

/-- What stands in front of all marks does not matter. -/
theorem passAll_cons (b : UInt8) (text : Text) (marks : Marks) (tokens : List GlobToken) :
    passAll (b :: text) (false :: marks) tokens = false :: passAll text marks tokens :=
  passAll_keeps (keeps_cons b text) tokens (fun behind => bif behind then marks else false :: marks)
    rfl

/-- From marks of two kinds a glob marks what it marks from either kind. -/
theorem passAll_either (text : Text) (first second : Marks) (tokens : List GlobToken) :
    passAll text (either first second) tokens =
      either (passAll text first tokens) (passAll text second tokens) :=
  passAll_keeps (keeps_either text) tokens
    (fun kind => kind.elim (either first second) fun isFirst => bif isFirst then first else second)
    rfl

end GlobToken

end TagCheck
