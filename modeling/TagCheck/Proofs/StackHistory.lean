/-
# The stack of open tags over its life

A client keeps one stack and calls it over and over, in any order. Here the stack is
changed in place: a call leaves a stack behind whatever comes of it, and a pop has taken
the innermost tag off by the time it compares names, so it has to put it back where they
differ. `popInPlace_eq` shows that this is the operation of the nesting, which hands
nothing back where it fails.

What is open is told from the replies alone, without a stack. A tag that was pushed is
the latest one open if all that came after it is settled: whatever was pushed in it was
popped in it again, and nothing else was (`LatestOpen`). Replies that failed or dropped a
tag have no part in this. The stack holds what the replies leave open, innermost first
(`Leaves`), and each law of the stack follows from that (`stack_is_bounded_lifo`).
-/

import Mathlib.Data.List.Induction
import TagCheck.Proofs.StackLaws

namespace TagCheck

/-! ## Calls and replies -/

/-- A call on the stack. -/
inductive StackCall where
  | push (name : String) (site : Position)
  | pop (name : String) (site : Position) (span : Span)
  | finish
  deriving DecidableEq, Repr

/-- What comes of a call. A push that succeeds is reported as recorded or as dropped. -/
inductive StackReply where
  | pushed (tag : OpenTag)
  | dropped
  | popped (tag : OpenTag)
  /-- Nothing is open where the text ends. -/
  | complete
  | failed (defect : Defect)
  deriving DecidableEq, Repr

namespace StackReply

def isPushed : StackReply → Bool
  | pushed _ => true
  | _ => false

def isPopped : StackReply → Bool
  | popped _ => true
  | _ => false

/-- Whether nothing was put on the stack or taken off it. -/
def isIdle (r : StackReply) : Bool := !r.isPushed && !r.isPopped

end StackReply

namespace TagStack

/-- The same stack with these tags open. -/
def holding (s : TagStack) (entries : List OpenTag) : TagStack :=
  { s with entries := entries, depth := entries.length, depth_eq := rfl }

/-- Close the innermost tag in place. It is taken off before its name is looked at, and
put back if that is another. -/
def popInPlace (s : TagStack) (name : String) (site : Position) (span : Span) :
    TagStack × Except Defect OpenTag :=
  match s.entries with
  | [] => (s, .error (.unmatchedClose name site span))
  | innermost :: outer =>
      let taken := s.holding outer
      if innermost.name = name then (taken, .ok innermost)
      else
        (taken.holding (innermost :: taken.entries),
          .error (.mismatch innermost.name innermost.site name site span))

/-- Make a call. -/
def call (s : TagStack) : StackCall → TagStack × StackReply
  | .push name site =>
      match s.push name site with
      | .ok t => (t, if s.isFull then .dropped else .pushed ⟨name, site⟩)
      | .error defect => (s, .failed defect)
  | .pop name site span =>
      match s.popInPlace name site span with
      | (t, .ok closed) => (t, .popped closed)
      | (t, .error defect) => (t, .failed defect)
  | .finish =>
      match s.finish with
      | none => (s, .complete)
      | some defect => (s, .failed defect)

/-- The stack that a sequence of calls leaves behind. -/
def after (s : TagStack) (calls : List StackCall) : TagStack :=
  calls.foldl (fun s call => (s.call call).1) s

/-- The replies to a sequence of calls. -/
def history (s : TagStack) : List StackCall → List StackReply
  | [] => []
  | call :: rest => (s.call call).2 :: (s.call call).1.history rest

variable {s : TagStack} {name : String} {site : Position} {span : Span}

theorem after_concat (s : TagStack) (calls : List StackCall) (call : StackCall) :
    s.after (calls ++ [call]) = ((s.after calls).call call).1 := by
  rw [after, List.foldl_append]
  rfl

theorem history_concat (s : TagStack) (calls : List StackCall) (call : StackCall) :
    s.history (calls ++ [call]) = s.history calls ++ [((s.after calls).call call).2] := by
  induction calls generalizing s with
  | nil => rfl
  | cons first rest ih =>
      rw [List.cons_append, history, history, ih, List.cons_append]
      rfl

/-- What is taken off and put back was never gone. -/
theorem holding_holding (s : TagStack) (entries : List OpenTag) :
    (s.holding entries).holding s.entries = s :=
  ext_of_entries rfl rfl rfl

/-- Closing in place is closing, with the stack kept where that fails. -/
theorem popInPlace_eq (s : TagStack) (name : String) (site : Position) (span : Span) :
    s.popInPlace name site span =
      match s.pop name site span with
      | .ok (closed, t) => (t, .ok closed)
      | .error defect => (s, .error defect) := by
  cases filled : s.entries with
  | nil =>
      rw [pop_of_empty _ _ _ filled]
      simp only [popInPlace, filled]
  | cons innermost outer =>
      by_cases same : innermost.name = name
      · obtain ⟨t, popped, entries, limit, policy⟩ := pop_of_match site span filled same
        have taken : s.holding outer = t := ext_of_entries entries.symm limit.symm policy.symm
        rw [popped]
        simp only [popInPlace, filled, if_pos same, taken]
      · have back : (s.holding outer).holding (innermost :: outer) = s := by
          rw [← filled]
          exact s.holding_holding outer
        rw [pop_of_mismatch _ _ filled same]
        simp only [popInPlace, filled, if_neg same]
        exact Prod.ext back rfl

/-! What comes of each call, by what the stack holds. -/

theorem call_push_of_room (name : String) (site : Position)
    (room : s.entries.length < s.limit) :
    ∃ t, s.call (.push name site) = (t, .pushed ⟨name, site⟩) ∧
      t.entries = ⟨name, site⟩ :: s.entries ∧ t.limit = s.limit ∧ t.policy = s.policy := by
  have notFull : ¬ s.isFull = true := fun full => Nat.not_le_of_lt room (isFull_iff.mp full)
  obtain ⟨t, pushed, kept⟩ := push_of_room name site room
  refine ⟨t, ?_, kept⟩
  simp only [call, pushed, if_neg notFull]

theorem call_push_of_full (name : String) (site : Position)
    (full : s.limit ≤ s.entries.length) :
    s.call (.push name site) =
      match s.policy with
      | .fail => (s, .failed (.tooDeep s.limit site))
      | .truncate => (s, .dropped) := by
  simp only [call, push_of_full name site full, if_pos (isFull_iff.mpr full)]
  cases s.policy <;> rfl

theorem call_pop_of_empty (name : String) (site : Position) (span : Span)
    (nothing : s.entries = []) :
    s.call (.pop name site span) = (s, .failed (.unmatchedClose name site span)) := by
  simp only [call, popInPlace_eq, pop_of_empty name site span nothing]

theorem call_pop_of_match {innermost : OpenTag} {outer : List OpenTag} (site : Position)
    (span : Span) (filled : s.entries = innermost :: outer) :
    ∃ t, s.call (.pop innermost.name site span) = (t, .popped innermost) ∧
      t.entries = outer ∧ t.limit = s.limit ∧ t.policy = s.policy := by
  obtain ⟨t, popped, kept⟩ := pop_of_match site span filled rfl
  refine ⟨t, ?_, kept⟩
  simp only [call, popInPlace_eq, popped]

theorem call_pop_of_mismatch {innermost : OpenTag} {outer : List OpenTag} (site : Position)
    (span : Span) (filled : s.entries = innermost :: outer) (other : innermost.name ≠ name) :
    s.call (.pop name site span) =
      (s, .failed (.mismatch innermost.name innermost.site name site span)) := by
  simp only [call, popInPlace_eq, pop_of_mismatch site span filled other]

theorem call_finish_of_empty (nothing : s.entries = []) :
    s.call .finish = (s, .complete) := by
  simp only [call, finish_eq, nothing, List.head?_nil, Option.map_none]

theorem call_finish_of_open {innermost : OpenTag} {outer : List OpenTag}
    (filled : s.entries = innermost :: outer) :
    s.call .finish =
      (s, .failed (.unclosed innermost.name innermost.site (s.entries.length - 1))) := by
  simp only [call, finish_eq, filled, List.head?_cons, Option.map_some]

/-- All that a call can do: put a tag on, take the innermost one off, or nothing. -/
theorem call_cases (s : TagStack) (call : StackCall) :
    (∃ tag t, s.call call = (t, .pushed tag) ∧ s.entries.length < s.limit ∧
        t.entries = tag :: s.entries ∧ t.limit = s.limit ∧ t.policy = s.policy) ∨
      (∃ tag t, s.call call = (t, .popped tag) ∧ s.entries = tag :: t.entries ∧
        t.limit = s.limit ∧ t.policy = s.policy) ∨
      (s.call call).1 = s ∧ (s.call call).2.isIdle = true := by
  cases call with
  | push name site =>
      by_cases room : s.entries.length < s.limit
      · obtain ⟨t, pushed, kept⟩ := call_push_of_room name site room
        exact .inl ⟨_, t, pushed, room, kept⟩
      · rw [call_push_of_full name site (Nat.le_of_not_lt room)]
        cases s.policy <;> exact .inr (.inr ⟨rfl, rfl⟩)
  | pop name site span =>
      cases filled : s.entries with
      | nil =>
          rw [call_pop_of_empty _ _ _ filled]
          exact .inr (.inr ⟨rfl, rfl⟩)
      | cons innermost outer =>
          by_cases same : innermost.name = name
          · obtain ⟨t, popped, entries, kept⟩ := call_pop_of_match site span filled
            subst same
            exact .inr (.inl ⟨innermost, t, popped, by rw [entries], kept⟩)
          · rw [call_pop_of_mismatch _ _ filled same]
            exact .inr (.inr ⟨rfl, rfl⟩)
  | finish =>
      cases filled : s.entries with
      | nil =>
          rw [call_finish_of_empty filled]
          exact .inr (.inr ⟨rfl, rfl⟩)
      | cons innermost outer =>
          rw [call_finish_of_open filled]
          exact .inr (.inr ⟨rfl, rfl⟩)

end TagStack

/-! ## What replies leave open -/

/-- Replies that tell of nothing left open and of nothing closed that was open before. -/
inductive Settled : List StackReply → Prop
  | nil : Settled []
  | idle {r : StackReply} {rest : List StackReply} (idle : r.isIdle = true)
      (follows : Settled rest) : Settled (r :: rest)
  | pair {tag : OpenTag} {inner rest : List StackReply} (inside : Settled inner)
      (follows : Settled rest) : Settled (.pushed tag :: inner ++ .popped tag :: rest)

/-- `tag` was pushed and not popped, and all that was pushed after it was. -/
def LatestOpen (replies : List StackReply) (tag : OpenTag) : Prop :=
  ∃ earlier later, replies = earlier ++ .pushed tag :: later ∧ Settled later

/-- `Leaves replies left`: of what was pushed, `left` was not popped, latest first. -/
inductive Leaves : List StackReply → List OpenTag → Prop
  | settled {replies : List StackReply} (settled : Settled replies) : Leaves replies []
  | opened {earlier later : List StackReply} {left : List OpenTag} {tag : OpenTag}
      (given : Leaves earlier left) (settled : Settled later) :
      Leaves (earlier ++ .pushed tag :: later) (tag :: left)

/-- How many pushes were recorded. -/
def pushes (replies : List StackReply) : Nat := replies.countP (·.isPushed)

/-- How many pops succeeded. -/
def pops (replies : List StackReply) : Nat := replies.countP (·.isPopped)

theorem pushes_cons (r : StackReply) (rest : List StackReply) :
    pushes (r :: rest) = pushes rest + r.isPushed.toNat := by
  cases pushed : r.isPushed <;> simp [pushes, pushed]

theorem pops_cons (r : StackReply) (rest : List StackReply) :
    pops (r :: rest) = pops rest + r.isPopped.toNat := by
  cases popped : r.isPopped <;> simp [pops, popped]

theorem pushes_append (first second : List StackReply) :
    pushes (first ++ second) = pushes first + pushes second :=
  List.countP_append

theorem pops_append (first second : List StackReply) :
    pops (first ++ second) = pops first + pops second :=
  List.countP_append

/-- What a reply does to the tags known to be open. It shows that replies determine what
they leave open. -/
def heldNext (held : List OpenTag) : StackReply → List OpenTag
  | .pushed tag => tag :: held
  | .popped _ => held.tail
  | _ => held

theorem heldNext_of_idle {r : StackReply} (idle : r.isIdle = true) (held : List OpenTag) :
    heldNext held r = held := by
  cases r with
  | pushed | popped => cases idle
  | dropped | complete | failed => rfl

namespace Settled

variable {first second : List StackReply}

theorem append (left : Settled first) (right : Settled second) : Settled (first ++ second) := by
  induction left with
  | nil => exact right
  | idle idle _ ih => exact .idle idle ih
  | pair inside _ _ ih =>
      rw [List.append_assoc]
      exact .pair inside ih

theorem foldl_heldNext (settled : Settled first) (held : List OpenTag) :
    first.foldl heldNext held = held := by
  induction settled generalizing held with
  | nil => rfl
  | idle idle _ ih => rw [List.foldl_cons, heldNext_of_idle idle, ih]
  | pair _ _ inside follows =>
      rw [List.cons_append, List.foldl_cons, List.foldl_append, inside, List.foldl_cons,
        follows]
      rfl

theorem pushes_eq (settled : Settled first) : pushes first = pops first := by
  induction settled with
  | nil => rfl
  | idle idle _ ih =>
      rw [StackReply.isIdle, Bool.and_eq_true, Bool.not_eq_true', Bool.not_eq_true'] at idle
      rw [pushes_cons, pops_cons, idle.1, idle.2, ih]
  | pair _ _ inside follows =>
      rw [List.cons_append, pushes_cons, pops_cons, pushes_append, pops_append, pushes_cons,
        pops_cons, inside, follows]
      rfl

end Settled

namespace Leaves

variable {replies more : List StackReply} {left : List OpenTag} {tag : OpenTag}

/-- Settled replies can follow. -/
theorem append (given : Leaves replies left) (settled : Settled more) :
    Leaves (replies ++ more) left := by
  cases given with
  | settled before => exact .settled (before.append settled)
  | opened earlier later =>
      rw [List.append_assoc, List.cons_append]
      exact .opened earlier (later.append settled)

theorem push (given : Leaves replies left) (tag : OpenTag) :
    Leaves (replies ++ [.pushed tag]) (tag :: left) :=
  .opened given .nil

theorem pop (given : Leaves replies (tag :: left)) : Leaves (replies ++ [.popped tag]) left := by
  cases given with
  | opened earlier later =>
      have paired : Settled (.pushed tag :: _ ++ [.popped tag]) := .pair later .nil
      rw [List.append_assoc]
      exact earlier.append paired

theorem foldl_heldNext (given : Leaves replies left) : replies.foldl heldNext [] = left := by
  induction given with
  | settled settled => exact settled.foldl_heldNext []
  | opened _ settled ih =>
      rw [List.foldl_append, ih, List.foldl_cons, settled.foldl_heldNext]
      rfl

theorem pushes_eq (given : Leaves replies left) : pushes replies = pops replies + left.length := by
  induction given with
  | settled settled => exact settled.pushes_eq
  | opened _ settled ih =>
      rw [pushes_append, pops_append, pushes_cons, pops_cons, ih, settled.pushes_eq,
        List.length_cons]
      simp only [StackReply.isPushed, StackReply.isPopped, Bool.toNat_true, Bool.toNat_false]
      omega

/-- The latest tag open is the first of those left. -/
theorem latestOpen_iff (given : Leaves replies left) :
    LatestOpen replies tag ↔ left.head? = some tag := by
  constructor
  · rintro ⟨earlier, later, rfl, settled⟩
    rw [← given.foldl_heldNext, List.foldl_append, List.foldl_cons, settled.foldl_heldNext]
    rfl
  · intro first
    cases given with
    | settled => cases first
    | opened _ settled =>
        cases first
        exact ⟨_, _, rfl, settled⟩

end Leaves

/-! ## The stack after any calls -/

/-- The stack holds what the replies leave open, within its limit. -/
structure TagStack.Follows (bound : Nat) (policy : OverflowPolicy) (replies : List StackReply)
    (s : TagStack) : Prop where
  limit : s.limit = bound
  overflow : s.policy = policy
  within : s.entries.length ≤ bound
  leaves : Leaves replies s.entries

namespace TagStack

variable {limit : Nat} {policy : OverflowPolicy} {replies : List StackReply} {s : TagStack}

theorem Follows.call (follows : s.Follows limit policy replies) (call : StackCall) :
    (s.call call).1.Follows limit policy (replies ++ [(s.call call).2]) := by
  rcases s.call_cases call with ⟨tag, t, called, room, entries, sameLimit, samePolicy⟩ |
    ⟨tag, t, called, entries, sameLimit, samePolicy⟩ | ⟨same, idle⟩
  · rw [called]
    refine ⟨sameLimit.trans follows.limit, samePolicy.trans follows.overflow, ?_, ?_⟩
    · rw [entries, List.length_cons, ← follows.limit]
      exact room
    · rw [entries]
      exact follows.leaves.push tag
  · have within := follows.within
    have leaves := follows.leaves
    rw [entries] at within leaves
    rw [called]
    exact ⟨sameLimit.trans follows.limit, samePolicy.trans follows.overflow,
      Nat.le_of_succ_le within, leaves.pop⟩
  · rw [same]
    exact ⟨follows.limit, follows.overflow, follows.within,
      follows.leaves.append (.idle idle .nil)⟩

theorem follows_after (limit : Nat) (policy : OverflowPolicy) (calls : List StackCall) :
    ((empty limit policy).after calls).Follows limit policy
      ((empty limit policy).history calls) := by
  induction calls using List.reverseRecOn with
  | nil => exact ⟨rfl, rfl, Nat.zero_le _, .settled .nil⟩
  | append_singleton calls call ih =>
      rw [after_concat, history_concat]
      exact ih.call call

/-! ## What each operation does, told from the replies so far -/

/-- What a push does on a stack under this limit and policy. -/
structure PushLaw (limit : Nat) (policy : OverflowPolicy) (s : TagStack) (name : String)
    (site : Position) : Prop where
  fails_iff : (∃ defect, (s.call (.push name site)).2 = .failed defect) ↔
    policy = .fail ∧ s.depth = limit
  fails_as : ∀ defect, (s.call (.push name site)).2 = .failed defect →
    defect = .tooDeep limit site
  drops_iff : (s.call (.push name site)).2 = .dropped ↔ policy = .truncate ∧ s.depth = limit
  pushes_iff : (s.call (.push name site)).2 = .pushed ⟨name, site⟩ ↔ s.depth < limit
  puts : s.depth < limit → (s.call (.push name site)).1.entries = ⟨name, site⟩ :: s.entries

/-- What a pop does on a stack with these replies behind it. -/
structure PopLaw (replies : List StackReply) (s : TagStack) (name : String) (site : Position)
    (span : Span) : Prop where
  pops_iff : ∀ tag, (s.call (.pop name site span)).2 = .popped tag ↔
    LatestOpen replies tag ∧ tag.name = name
  takes : ∀ tag, (s.call (.pop name site span)).2 = .popped tag →
    s.entries = tag :: (s.call (.pop name site span)).1.entries
  unmatched_iff : (s.call (.pop name site span)).2 = .failed (.unmatchedClose name site span) ↔
    s.entries = []
  mismatch_iff : ∀ tag : OpenTag, (s.call (.pop name site span)).2 =
      .failed (.mismatch tag.name tag.site name site span) ↔
    LatestOpen replies tag ∧ tag.name ≠ name
  fails_as : ∀ defect, (s.call (.pop name site span)).2 = .failed defect →
    defect = .unmatchedClose name site span ∨
      ∃ tag : OpenTag, defect = .mismatch tag.name tag.site name site span

/-- What the end of the text means to a stack with these replies behind it. -/
structure FinishLaw (replies : List StackReply) (s : TagStack) : Prop where
  completes_iff : (s.call .finish).2 = .complete ↔ pushes replies = pops replies
  fails_as : pushes replies ≠ pops replies → ∃ tag, LatestOpen replies tag ∧
    (s.call .finish).2 = .failed (.unclosed tag.name tag.site (pushes replies - pops replies - 1))
  keeps : (s.call .finish).1 = s

namespace Follows

theorem depth_le (follows : s.Follows limit policy replies) : s.depth ≤ limit := by
  rw [s.depth_eq]
  exact follows.within

theorem pushLaw (follows : s.Follows limit policy replies) (name : String) (site : Position) :
    s.PushLaw limit policy name site := by
  by_cases room : s.depth < limit
  · have free : s.entries.length < s.limit := by rwa [← s.depth_eq, follows.limit]
    obtain ⟨t, pushed, entries, _⟩ := call_push_of_room name site free
    have notAt : s.depth ≠ limit := Nat.ne_of_lt room
    exact {
      fails_iff := by simp [pushed, notAt]
      fails_as := by simp [pushed]
      drops_iff := by simp [pushed, notAt]
      pushes_iff := by simp [pushed, room]
      puts := fun _ => by rw [pushed, entries] }
  · have atLimit : s.depth = limit := Nat.le_antisymm follows.depth_le (Nat.le_of_not_lt room)
    have full : s.limit ≤ s.entries.length := by
      rw [follows.limit, ← s.depth_eq]
      exact Nat.le_of_not_lt room
    have refused := call_push_of_full name site full
    rw [follows.overflow, follows.limit] at refused
    exact {
      fails_iff := by cases policy <;> simp [refused, atLimit]
      fails_as := by cases policy <;> simp [refused]
      drops_iff := by cases policy <;> simp [refused, atLimit]
      pushes_iff := by cases policy <;> simp [refused, room]
      puts := fun free => absurd free room }

theorem popLaw (follows : s.Follows limit policy replies) (name : String) (site : Position)
    (span : Span) : s.PopLaw replies name site span := by
  have latest (tag : OpenTag) : LatestOpen replies tag ↔ s.entries.head? = some tag :=
    follows.leaves.latestOpen_iff
  cases filled : s.entries with
  | nil =>
      have failed := call_pop_of_empty name site span filled
      rw [filled] at latest
      exact {
        pops_iff := by simp [failed, latest]
        takes := by simp [failed]
        unmatched_iff := by simp [failed, filled]
        mismatch_iff := by simp [failed, latest]
        fails_as := by simp [failed] }
  | cons innermost outer =>
      rw [filled] at latest
      by_cases same : innermost.name = name
      · subst same
        obtain ⟨t, popped, entries, _⟩ := call_pop_of_match site span filled
        exact {
          pops_iff := by
            intro tag
            rw [popped, latest, List.head?_cons, Option.some.injEq, StackReply.popped.injEq]
            exact ⟨fun same => ⟨same, by rw [same]⟩, And.left⟩
          takes := by
            intro tag taken
            rw [popped] at taken ⊢
            cases taken
            rw [filled, entries]
          unmatched_iff := by simp [popped, filled]
          mismatch_iff := by
            intro tag
            rw [popped, latest, List.head?_cons, Option.some.injEq]
            exact ⟨fun failed => (by cases failed), fun ⟨first, other⟩ =>
              absurd (by rw [first]) other⟩
          fails_as := by simp [popped] }
      · have failed := call_pop_of_mismatch site span filled same
        exact {
          pops_iff := by
            intro tag
            rw [failed, latest, List.head?_cons, Option.some.injEq]
            exact ⟨fun popped => (by cases popped), fun ⟨first, named⟩ =>
              absurd (by rw [first, named]) same⟩
          takes := by simp [failed]
          unmatched_iff := by simp [failed, filled]
          mismatch_iff := by
            rintro ⟨expected, openedAt⟩
            rw [failed, latest, List.head?_cons, Option.some.injEq]
            constructor
            · rintro ⟨⟩
              exact ⟨rfl, same⟩
            · rintro ⟨rfl, _⟩
              rfl
          fails_as := by
            intro defect found
            rw [failed] at found
            cases found
            exact .inr ⟨innermost, rfl⟩ }

theorem finishLaw (follows : s.Follows limit policy replies) : s.FinishLaw replies := by
  have counted := follows.leaves.pushes_eq
  have latest (tag : OpenTag) : LatestOpen replies tag ↔ s.entries.head? = some tag :=
    follows.leaves.latestOpen_iff
  cases filled : s.entries with
  | nil =>
      have complete := call_finish_of_empty filled
      rw [filled, List.length_nil, Nat.add_zero] at counted
      constructor <;> simp [complete, counted]
  | cons innermost outer =>
      have failed := call_finish_of_open filled
      rw [filled] at latest
      have others : pushes replies - pops replies = s.entries.length := by omega
      have differ : pushes replies ≠ pops replies := by
        rw [filled, List.length_cons] at counted
        omega
      refine ⟨?_, ?_, ?_⟩
      · simp [failed, differ]
      · intro _
        refine ⟨innermost, (latest innermost).mpr rfl, ?_⟩
        rw [failed, others]
      · rw [failed]

end Follows
end TagStack

/-- Whatever was called before, the stack of open tags is a bounded stack, last in and
first out, whose failures change nothing. Its depth is within the limit and is what has
been pushed and not popped; a call that does not report a push or a pop leaves the stack
as it was; and each operation does what its law says. -/
theorem stack_is_bounded_lifo (limit : Nat) (policy : OverflowPolicy)
    (calls : List StackCall) :
    let s := (TagStack.empty limit policy).after calls
    let replies := (TagStack.empty limit policy).history calls
    s.depth ≤ limit ∧ pushes replies = pops replies + s.depth ∧
      (∀ call, (s.call call).2.isIdle = true → (s.call call).1 = s) ∧
      (∀ name site, s.PushLaw limit policy name site) ∧
      (∀ name site span, s.PopLaw replies name site span) ∧
      s.FinishLaw replies := by
  intro s replies
  have follows : s.Follows limit policy replies := TagStack.follows_after limit policy calls
  refine ⟨follows.depth_le, ?_, ?_, follows.pushLaw, follows.popLaw, follows.finishLaw⟩
  · rw [s.depth_eq]
    exact follows.leaves.pushes_eq
  · intro call idle
    rcases s.call_cases call with ⟨tag, t, called, _⟩ | ⟨tag, t, called, _⟩ | ⟨same, _⟩
    · rw [called] at idle
      cases idle
    · rw [called] at idle
      cases idle
    · exact same

-- A tag that was dropped leaves no trace, so the closing tag behind it is held against the
-- outer one. That one stays open until its own closing tag comes.
example :
    (TagStack.empty 1 .truncate).history
        [.push "a" ⟨0, 1, 1⟩, .push "b" ⟨3, 1, 4⟩, .pop "b" ⟨6, 1, 7⟩ ⟨6, 4⟩,
          .pop "a" ⟨10, 1, 11⟩ ⟨10, 4⟩, .finish] =
      [.pushed ⟨"a", ⟨0, 1, 1⟩⟩, .dropped, .failed (.mismatch "a" ⟨0, 1, 1⟩ "b" ⟨6, 1, 7⟩ ⟨6, 4⟩),
        .popped ⟨"a", ⟨0, 1, 1⟩⟩, .complete] := by
  decide

end TagCheck
