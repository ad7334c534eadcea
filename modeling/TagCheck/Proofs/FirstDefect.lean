/-
# The first defect

Scanning meets the tags of a text in order, and the first tag that cannot be met
is the defect. Here this is said without the stack: a tag offends where a closing
tag fits nothing that is pending, or an opening tag comes on top of as many
pending ones as are allowed. `settle_verdict` carries the stack of a run along with
the pending tags of what the run has met (`Nesting.Tracks`), and concludes that
the run ends either at the first offence or, if there is none, with what is left
open.
-/

import TagCheck.Markup.Nesting
import TagCheck.Proofs.StackLaws
import TagCheck.Proofs.TagGrammar

namespace TagCheck

def Lexeme.tag? : Lexeme → Option Tag
  | tag t => some t
  | typeBrackets .. => none

/-- The tags of a text, in reading order. -/
def tags (options : ScanOptions) (text : Text) : List Tag :=
  (Lexer.lexemes options text).filterMap Lexeme.tag?

/-- Whether a tag cannot be met where `pending` are open. -/
def Tag.Offends (limit : Nat) (pending : List Tag) (t : Tag) : Prop :=
  t.form = .closing ∧ pending.getLast?.map (·.name) ≠ some t.name ∨
    t.form = .opening ∧ pending.length = limit

/-- No tag offends where it stands. -/
def Clean (limit : Nat) (tags : List Tag) : Prop :=
  ∀ earlier t later pending, tags = earlier ++ t :: later → Pending earlier pending →
    ¬ t.Offends limit pending

/-- `t` is the first tag that offends: `before` it none does, and `pending` is what
`before` leaves open. -/
structure FirstOffence (limit : Nat) (tags before pending : List Tag) (t : Tag) : Prop where
  place : before ++ [t] <+: tags
  leaves : Pending before pending
  offends : t.Offends limit pending
  clean : Clean limit before

/-- What is wrong with a tag that offends. -/
def Tag.offence (limit : Nat) (pending : List Tag) (t : Tag) : Defect :=
  match t.form, pending.getLast? with
  | .closing, none => .unmatchedClose t.name t.site t.span
  | .closing, some innermost => .mismatch innermost.name innermost.site t.name t.site t.span
  | _, _ => .tooDeep limit t.site

/-- What is wrong with a text that leaves `pending` open. -/
def leftOpen (pending : List Tag) : Option Defect :=
  pending.getLast?.map fun innermost =>
    .unclosed innermost.name innermost.site (pending.length - 1)

/-! ## Offences -/

theorem Tag.fits_of_not_offends {limit : Nat} {pending : List Tag} {t : Tag}
    (fine : ¬ t.Offends limit pending) : t.Fits pending := by
  intro closes
  by_contra misfit
  exact fine (.inl ⟨closes, misfit⟩)

theorem pendingNext_length_le {limit : Nat} {pending : List Tag} {t : Tag}
    (within : pending.length ≤ limit) (fine : ¬ t.Offends limit pending) :
    (pendingNext pending t).length ≤ limit := by
  cases form : t.form with
  | opening =>
      have room : pending.length ≠ limit := fun full => fine (.inr ⟨form, full⟩)
      simp only [pendingNext, form, List.length_append, List.length_singleton]
      omega
  | closing =>
      simp only [pendingNext, form, List.length_dropLast]
      omega
  | single =>
      simp only [pendingNext, form]
      exact within

theorem Clean.of_append {limit : Nat} {before after : List Tag}
    (clean : Clean limit (before ++ after)) : Clean limit before := by
  intro earlier t later pending cut given
  apply clean earlier t (later ++ after) pending _ given
  rw [cut, List.append_assoc, List.cons_append]

theorem Clean.concat {limit : Nat} {before pending : List Tag} {t : Tag}
    (clean : Clean limit before) (given : Pending before pending)
    (fine : ¬ t.Offends limit pending) : Clean limit (before ++ [t]) := by
  intro earlier u later left cut open'
  rcases List.eq_nil_or_concat later with rfl | ⟨between, last, rfl⟩
  · obtain ⟨rfl, same⟩ := List.append_inj' cut rfl
    cases same
    rwa [open'.unique given]
  · rw [List.concat_eq_append, ← List.cons_append, ← List.append_assoc] at cut
    obtain ⟨rest, _⟩ := List.append_inj' cut rfl
    exact clean earlier u between left rest open'

/-- Tags of which none offends leave no more open than is allowed. -/
theorem Clean.exists_pending {limit : Nat} {tags : List Tag} (clean : Clean limit tags) :
    ∃ pending, Pending tags pending ∧ pending.length ≤ limit := by
  induction tags using List.reverseRecOn with
  | nil => exact ⟨[], .closed .nil, Nat.zero_le _⟩
  | append_singleton before t ih =>
      obtain ⟨pending, given, within⟩ := ih clean.of_append
      have fine := clean before t [] pending rfl given
      exact ⟨_, given.next (Tag.fits_of_not_offends fine), pendingNext_length_le within fine⟩

namespace FirstOffence

variable {limit : Nat} {tags before pending : List Tag} {t : Tag}

theorem not_clean (first : FirstOffence limit tags before pending t) : ¬ Clean limit tags := by
  intro clean
  obtain ⟨after, rfl⟩ := first.place
  exact clean before t after pending (by simp) first.leaves first.offends

private theorem length_le {before' pending' : List Tag} {t' : Tag}
    (first : FirstOffence limit tags before pending t)
    (second : FirstOffence limit tags before' pending' t') : before'.length ≤ before.length := by
  by_contra longer
  have inside : before ++ [t] <+: before' :=
    List.prefix_of_prefix_length_le first.place ((List.prefix_append _ _).trans second.place)
      (by rw [List.length_append, List.length_singleton]; omega)
  obtain ⟨between, rfl⟩ := inside
  exact second.clean before t between pending (by simp) first.leaves first.offends

/-- There is one first offence at most. -/
theorem unique {before' pending' : List Tag} {t' : Tag}
    (first : FirstOffence limit tags before pending t)
    (second : FirstOffence limit tags before' pending' t') :
    before' = before ∧ pending' = pending ∧ t' = t := by
  have level : (before' ++ [t']).length = (before ++ [t]).length := by
    rw [List.length_append, List.length_append, List.length_singleton, List.length_singleton,
      Nat.le_antisymm (length_le first second) (length_le second first)]
  have same : before' ++ [t'] = before ++ [t] :=
    (List.prefix_of_prefix_length_le second.place first.place
      (Nat.le_of_eq level)).eq_of_length level
  obtain ⟨rfl, tail⟩ := List.append_inj' same rfl
  cases tail
  exact ⟨rfl, second.leaves.unique first.leaves, rfl⟩

end FirstOffence

/-! ## The run of the nesting -/

/-- What the stack keeps of an opening tag. -/
def Tag.entry (t : Tag) : OpenTag := ⟨t.name, t.site⟩

/-- How many elements the tags of a run complete: those that stand alone, and those
whose closing tag was met. -/
def completed (tags : List Tag) : Nat := singles tags + namedClosings tags

/-- The nesting that has met the tags `before`, which leave `pending` open. -/
structure Nesting.Tracks (options : ScanOptions) (before pending : List Tag) (n : Nesting) :
    Prop where
  entries : n.stack.entries = (pending.map Tag.entry).reverse
  limit : n.stack.limit = options.maxDepth
  policy : n.stack.policy = .fail
  counted : n.tagsChecked = completed before
  leaves : Pending before pending
  within : pending.length ≤ options.maxDepth

namespace Nesting.Tracks

variable {options : ScanOptions} {before pending : List Tag} {n : Nesting} {t : Tag}

theorem start (fails : options.overflow = .fail) :
    Tracks options [] [] (Nesting.start options) :=
  ⟨rfl, rfl, fails, rfl, .closed .nil, Nat.zero_le _⟩

theorem entries_length (tracks : Tracks options before pending n) :
    n.stack.entries.length = pending.length := by
  rw [tracks.entries, List.length_reverse, List.length_map]

theorem entries_head? (tracks : Tracks options before pending n) :
    n.stack.entries.head? = pending.getLast?.map Tag.entry := by
  rw [tracks.entries, List.head?_reverse, List.getLast?_map]

theorem finish_eq (tracks : Tracks options before pending n) :
    n.stack.finish = leftOpen pending := by
  rw [TagStack.finish_eq, tracks.entries_head?, tracks.entries_length, leftOpen, Option.map_map]
  rfl

theorem entries_concat {outer : List Tag} {innermost : Tag}
    (tracks : Tracks options before (outer ++ [innermost]) n) :
    n.stack.entries = innermost.entry :: (outer.map Tag.entry).reverse := by
  rw [tracks.entries, List.map_append, List.reverse_append]
  rfl

theorem meet_single (tracks : Tracks options before pending n) (form : t.form = .single) :
    ∃ m, n.meet (.tag t) = .ok m ∧ Tracks options (before ++ [t]) pending m := by
  refine ⟨n.count, by simp only [meet, form], tracks.entries, tracks.limit, tracks.policy, ?_,
    tracks.leaves.append (.single form .nil), tracks.within⟩
  have counted := tracks.counted
  simp [count, completed, singles, namedClosings, form] at counted ⊢
  omega

theorem meet_opening (tracks : Tracks options before pending n) (form : t.form = .opening)
    (room : pending.length < options.maxDepth) :
    ∃ m, n.meet (.tag t) = .ok m ∧ Tracks options (before ++ [t]) (pending ++ [t]) m := by
  have free : n.stack.entries.length < n.stack.limit := by
    rwa [tracks.entries_length, tracks.limit]
  obtain ⟨m, met, entries, limit, policy, counted⟩ := Nesting.meet_of_opening form free
  refine ⟨m, met, ?_, limit.trans tracks.limit, policy.trans tracks.policy, ?_,
    .opened tracks.leaves form .nil, ?_⟩
  · rw [entries, tracks.entries, List.map_append, List.reverse_append]
    rfl
  · rw [counted, tracks.counted]
    simp [completed, singles, namedClosings, form]
  · rw [List.length_append, List.length_singleton]
    exact room

theorem meet_closing {outer : List Tag} {innermost : Tag}
    (tracks : Tracks options before (outer ++ [innermost]) n) (form : t.form = .closing)
    (named : innermost.name = t.name) :
    ∃ m, n.meet (.tag t) = .ok m ∧ Tracks options (before ++ [t]) outer m := by
  have fits : t.Fits (outer ++ [innermost]) := fun _ => by
    rw [List.getLast?_concat, Option.map_some, named]
  have leaves := tracks.leaves.next fits
  rw [pendingNext, form] at leaves
  simp only [List.dropLast_concat] at leaves
  have within := tracks.within
  rw [List.length_append] at within
  obtain ⟨m, met, entries, limit, policy, counted⟩ :=
    Nesting.meet_of_closing form tracks.entries_concat named
  refine ⟨m, met, entries, limit.trans tracks.limit, policy.trans tracks.policy, ?_, leaves, ?_⟩
  · rw [counted, tracks.counted]
    by_cases unnamed : t.name.isEmpty
    · simp [completed, singles, namedClosings, form, unnamed]
    · simp [completed, singles, namedClosings, form, unnamed]
      omega
  · omega

/-- A tag that does not offend is met, and the stack goes on to hold what is
pending. -/
theorem meet_of_fine (tracks : Tracks options before pending n)
    (fine : ¬ t.Offends options.maxDepth pending) :
    ∃ m, n.meet (.tag t) = .ok m ∧
      Tracks options (before ++ [t]) (pendingNext pending t) m := by
  cases form : t.form with
  | single =>
      rw [pendingNext, form]
      exact tracks.meet_single form
  | opening =>
      have room : pending.length ≠ options.maxDepth := fun full => fine (.inr ⟨form, full⟩)
      rw [pendingNext, form]
      exact tracks.meet_opening form (Nat.lt_of_le_of_ne tracks.within room)
  | closing =>
      obtain ⟨innermost, isLast, named⟩ :=
        Option.map_eq_some_iff.mp (Tag.fits_of_not_offends fine form)
      obtain ⟨outer, rfl⟩ := List.getLast?_eq_some_iff.mp isLast
      rw [pendingNext, form]
      simp only [List.dropLast_concat]
      exact tracks.meet_closing form named

/-- A tag that offends is not met, and its defect says why. -/
theorem meet_of_offence (tracks : Tracks options before pending n)
    (offends : t.Offends options.maxDepth pending) :
    n.meet (.tag t) = .error (t.offence options.maxDepth pending) := by
  rcases offends with ⟨form, misfit⟩ | ⟨form, full⟩
  · rcases List.eq_nil_or_concat pending with rfl | ⟨outer, innermost, rfl⟩
    · have nothing : n.stack.entries = [] := tracks.entries
      simp only [meet, form, closeTag, TagStack.pop_of_empty _ _ _ nothing, Tag.offence,
        List.getLast?_nil]
    · rw [List.concat_eq_append] at tracks misfit ⊢
      have other : innermost.name ≠ t.name := fun same =>
        misfit (by rw [List.getLast?_concat, Option.map_some, same])
      simp only [meet, form, closeTag,
        TagStack.pop_of_mismatch _ _ tracks.entries_concat other, Tag.offence,
        List.getLast?_concat]
      rfl
  · have atLimit : n.stack.limit ≤ n.stack.entries.length := by
      exact Nat.le_of_eq (by rw [tracks.limit, tracks.entries_length, full])
    simp only [meet, form, openTag, TagStack.push_of_full _ _ atLimit, tracks.policy, tracks.limit,
      Tag.offence]

end Nesting.Tracks

/-- A run ends at the first offence, or else with what is left open. -/
theorem settle_verdict {options : ScanOptions} {before pending : List Tag} {n : Nesting}
    (tracks : n.Tracks options before pending) (clean : Clean options.maxDepth before)
    (lexemes : List Lexeme) {all : List Tag}
    (whole : all = before ++ lexemes.filterMap Lexeme.tag?) :
    (∃ met left t, FirstOffence options.maxDepth all met left t ∧
        (n.settle lexemes).defect = some (t.offence options.maxDepth left) ∧
        (n.settle lexemes).tagsChecked = completed met) ∨
      (∃ left, Clean options.maxDepth all ∧ Pending all left ∧
        (n.settle lexemes).defect = leftOpen left ∧
        (n.settle lexemes).tagsChecked = completed all) := by
  induction lexemes generalizing n before pending with
  | nil =>
      rw [List.filterMap_nil, List.append_nil] at whole
      subst whole
      exact .inr ⟨pending, clean, tracks.leaves, tracks.finish_eq, tracks.counted⟩
  | cons lexeme rest ih =>
      cases lexeme with
      | typeBrackets site rule =>
          have reported : Nesting.Tracks options before pending
              (n.report (.typeBrackets site rule.name)) :=
            ⟨tracks.entries, tracks.limit, tracks.policy, tracks.counted, tracks.leaves,
              tracks.within⟩
          exact ih reported clean whole
      | tag t =>
          have cut : all = before ++ [t] ++ rest.filterMap Lexeme.tag? := by
            rw [whole, List.append_assoc]
            rfl
          by_cases offends : t.Offends options.maxDepth pending
          · have stopped := tracks.meet_of_offence offends
            refine .inl ⟨before, pending, t, ⟨⟨_, cut.symm⟩, tracks.leaves, offends, clean⟩, ?_⟩
            simp only [Nesting.settle, stopped]
            exact ⟨rfl, tracks.counted⟩
          · obtain ⟨m, met, onward⟩ := tracks.meet_of_fine offends
            simp only [Nesting.settle, met]
            exact ih onward (clean.concat tracks.leaves offends) cut

namespace FirstOffence

variable {options : ScanOptions} {text : Text}

theorem scan_verdict (fails : options.overflow = .fail) (text : Text) :
    (∃ met left t, FirstOffence options.maxDepth (tags options text) met left t ∧
        (scan options text).defect = some (t.offence options.maxDepth left) ∧
        (scan options text).tagsChecked = completed met) ∨
      (∃ left, Clean options.maxDepth (tags options text) ∧ Pending (tags options text) left ∧
        (scan options text).defect = leftOpen left ∧
        (scan options text).tagsChecked = completed (tags options text)) :=
  settle_verdict (.start fails) (fun _ _ _ _ cut => absurd cut (by simp)) _ rfl

/-- Where a defect comes from. -/
theorem scan_defect_iff (fails : options.overflow = .fail) {defect : Defect} :
    (scan options text).defect = some defect ↔
      (∃ before pending t, FirstOffence options.maxDepth (tags options text) before pending t ∧
          t.offence options.maxDepth pending = defect) ∨
        (Clean options.maxDepth (tags options text) ∧
          ∃ pending, Pending (tags options text) pending ∧ leftOpen pending = some defect) := by
  rcases scan_verdict fails text with
    ⟨met, left, t, first, found, _⟩ | ⟨left, clean, open', found, _⟩
  · rw [found, Option.some.injEq]
    constructor
    · exact fun same => .inl ⟨met, left, t, first, same⟩
    · rintro (⟨_, _, _, other, same⟩ | ⟨clean, _⟩)
      · obtain ⟨rfl, rfl, rfl⟩ := first.unique other
        exact same
      · exact absurd clean first.not_clean
  · rw [found]
    constructor
    · exact fun same => .inr ⟨clean, left, open', same⟩
    · rintro (⟨_, _, _, first, _⟩ | ⟨_, _, again, same⟩)
      · exact absurd clean first.not_clean
      · rw [open'.unique again]
        exact same

/-- The elements counted are those completed before the defect. -/
theorem scan_tagsChecked {before pending : List Tag} {t : Tag}
    (first : FirstOffence options.maxDepth (tags options text) before pending t)
    (fails : options.overflow = .fail) :
    (scan options text).tagsChecked = completed before := by
  rcases scan_verdict fails text with ⟨_, _, _, other, _, counted⟩ | ⟨_, clean, _⟩
  · obtain ⟨rfl, _, _⟩ := first.unique other
    exact counted
  · exact absurd clean first.not_clean

end FirstOffence

theorem Clean.scan_tagsChecked {options : ScanOptions} {text : Text}
    (clean : Clean options.maxDepth (tags options text)) (fails : options.overflow = .fail) :
    (scan options text).tagsChecked = completed (tags options text) := by
  rcases FirstOffence.scan_verdict fails text with ⟨_, _, _, first, _⟩ | ⟨_, _, _, _, counted⟩
  · exact absurd clean first.not_clean
  · exact counted

/-! ## What each kind of defect says -/

namespace Tag

variable {limit : Nat} {pending : List Tag} {t : Tag}

theorem offence_eq_unmatchedClose (offends : t.Offends limit pending) {name : String}
    {site : Position} {span : Span} :
    t.offence limit pending = .unmatchedClose name site span ↔
      pending = [] ∧ t.form = .closing ∧ t.name = name ∧ t.site = site ∧ t.span = span := by
  rcases offends with ⟨form, _⟩ | ⟨form, _⟩
  · rcases List.eq_nil_or_concat pending with rfl | ⟨outer, innermost, rfl⟩
    · simp [offence, form]
    · simp [offence, form]
  · simp [offence, form]

theorem offence_eq_mismatch (offends : t.Offends limit pending) {expected found : String}
    {openedAt site : Position} {span : Span} :
    t.offence limit pending = .mismatch expected openedAt found site span ↔
      ∃ outer innermost, pending = outer ++ [innermost] ∧ t.form = .closing ∧
        innermost.name = expected ∧ innermost.site = openedAt ∧ t.name = found ∧
        found ≠ expected ∧ t.site = site ∧ t.span = span := by
  rcases offends with ⟨form, misfit⟩ | ⟨form, _⟩
  · rcases List.eq_nil_or_concat pending with rfl | ⟨outer, innermost, rfl⟩
    · simp [offence, form]
    · rw [List.concat_eq_append] at misfit ⊢
      have other : t.name ≠ innermost.name := fun same =>
        misfit (by rw [List.getLast?_concat, Option.map_some, same])
      simp only [offence, form, List.getLast?_concat, Defect.mismatch.injEq]
      constructor
      · rintro ⟨rfl, rfl, rfl, rfl, rfl⟩
        exact ⟨outer, innermost, rfl, trivial, rfl, rfl, rfl, other, rfl, rfl⟩
      · rintro ⟨_, last, same, _, rfl, rfl, rfl, _, rfl, rfl⟩
        obtain ⟨_, rfl⟩ := List.append_singleton_inj.mp same
        exact ⟨rfl, rfl, rfl, rfl, rfl⟩
  · simp [offence, form]

theorem offence_eq_tooDeep (offends : t.Offends limit pending) {bound : Nat} {site : Position} :
    t.offence limit pending = .tooDeep bound site ↔
      t.form = .opening ∧ pending.length = limit ∧ limit = bound ∧ t.site = site := by
  rcases offends with ⟨form, _⟩ | ⟨form, full⟩
  · rcases List.eq_nil_or_concat pending with rfl | ⟨outer, innermost, rfl⟩
    · simp [offence, form]
    · simp [offence, form]
  · simp [offence, form, full]

theorem offence_ne_unclosed {name : String} {site : Position} {others : Nat} :
    t.offence limit pending ≠ .unclosed name site others := by
  unfold offence
  split <;> simp

end Tag

theorem leftOpen_eq_some {pending : List Tag} {defect : Defect} :
    leftOpen pending = some defect ↔
      ∃ outer innermost, pending = outer ++ [innermost] ∧
        defect = .unclosed innermost.name innermost.site outer.length := by
  rcases List.eq_nil_or_concat pending with rfl | ⟨outer, innermost, rfl⟩
  · simp [leftOpen]
  · rw [List.concat_eq_append]
    constructor
    · intro left
      refine ⟨outer, innermost, rfl, ?_⟩
      simpa [leftOpen, eq_comm] using left
    · rintro ⟨_, last, same, rfl⟩
      obtain ⟨rfl, rfl⟩ := List.append_singleton_inj.mp same
      simp [leftOpen]

/-! ## What a scan reports -/

namespace FirstOffence

variable {options : ScanOptions} {text : Text} {site : Position}

/-- Every defect but that of a tag left open comes from the first offence. -/
theorem scan_offence_iff (fails : options.overflow = .fail) {defect : Defect}
    (met : ∀ name site others, defect ≠ .unclosed name site others) :
    (scan options text).defect = some defect ↔
      ∃ before pending t, FirstOffence options.maxDepth (tags options text) before pending t ∧
        t.offence options.maxDepth pending = defect := by
  rw [scan_defect_iff fails]
  constructor
  · rintro (offence | ⟨_, _, _, left⟩)
    · exact offence
    · obtain ⟨_, _, _, same⟩ := leftOpen_eq_some.mp left
      exact absurd same (met _ _ _)
  · exact .inl

theorem scan_unmatchedClose_iff (fails : options.overflow = .fail) {name : String}
    {span : Span} :
    (scan options text).defect = some (.unmatchedClose name site span) ↔
      ∃ before t, FirstOffence options.maxDepth (tags options text) before [] t ∧
        t.form = .closing ∧ t.name = name ∧ t.site = site ∧ t.span = span := by
  rw [scan_offence_iff fails (by simp)]
  constructor
  · rintro ⟨before, pending, t, first, same⟩
    obtain ⟨rfl, described⟩ := (Tag.offence_eq_unmatchedClose first.offends).mp same
    exact ⟨before, t, first, described⟩
  · rintro ⟨before, t, first, described⟩
    exact ⟨before, [], t, first,
      (Tag.offence_eq_unmatchedClose first.offends).mpr ⟨rfl, described⟩⟩

theorem scan_mismatch_iff (fails : options.overflow = .fail) {expected found : String}
    {openedAt : Position} {span : Span} :
    (scan options text).defect = some (.mismatch expected openedAt found site span) ↔
      ∃ before outer innermost t,
        FirstOffence options.maxDepth (tags options text) before (outer ++ [innermost]) t ∧
          t.form = .closing ∧ innermost.name = expected ∧ innermost.site = openedAt ∧
          t.name = found ∧ found ≠ expected ∧ t.site = site ∧ t.span = span := by
  rw [scan_offence_iff fails (by simp)]
  constructor
  · rintro ⟨before, pending, t, first, same⟩
    obtain ⟨outer, innermost, rfl, described⟩ := (Tag.offence_eq_mismatch first.offends).mp same
    exact ⟨before, outer, innermost, t, first, described⟩
  · rintro ⟨before, outer, innermost, t, first, described⟩
    exact ⟨before, _, t, first,
      (Tag.offence_eq_mismatch first.offends).mpr ⟨outer, innermost, rfl, described⟩⟩

theorem scan_tooDeep_iff (fails : options.overflow = .fail) {bound : Nat} :
    (scan options text).defect = some (.tooDeep bound site) ↔
      ∃ before pending t, FirstOffence options.maxDepth (tags options text) before pending t ∧
        t.form = .opening ∧ pending.length = options.maxDepth ∧ options.maxDepth = bound ∧
        t.site = site := by
  rw [scan_offence_iff fails (by simp)]
  constructor
  · rintro ⟨before, pending, t, first, same⟩
    exact ⟨before, pending, t, first, (Tag.offence_eq_tooDeep first.offends).mp same⟩
  · rintro ⟨before, pending, t, first, described⟩
    exact ⟨before, pending, t, first, (Tag.offence_eq_tooDeep first.offends).mpr described⟩

theorem scan_unclosed_iff (fails : options.overflow = .fail) {name : String} {others : Nat} :
    (scan options text).defect = some (.unclosed name site others) ↔
      Clean options.maxDepth (tags options text) ∧
        ∃ outer innermost, Pending (tags options text) (outer ++ [innermost]) ∧
          innermost.name = name ∧ innermost.site = site ∧ others = outer.length := by
  rw [scan_defect_iff fails]
  constructor
  · rintro (⟨_, _, _, _, same⟩ | ⟨clean, pending, given, left⟩)
    · exact absurd same Tag.offence_ne_unclosed
    · obtain ⟨outer, innermost, rfl, same⟩ := leftOpen_eq_some.mp left
      obtain ⟨rfl, rfl, rfl⟩ := Defect.unclosed.inj same
      exact ⟨clean, outer, innermost, given, rfl, rfl, rfl⟩
  · rintro ⟨clean, outer, innermost, given, rfl, rfl, rfl⟩
    exact .inr ⟨clean, _, given, leftOpen_eq_some.mpr ⟨outer, innermost, rfl, rfl⟩⟩

/-- What is wrong with a file as a whole is not found by scanning. -/
theorem scan_defect_kind (fails : options.overflow = .fail) {defect : Defect}
    (found : (scan options text).defect = some defect) :
    defect.kind ≠ .fileUnreadable ∧ defect.kind ≠ .outOfMemory := by
  rcases (scan_defect_iff fails).mp found with ⟨_, pending, t, _, rfl⟩ | ⟨_, _, _, left⟩
  · unfold Tag.offence
    split <;> simp [Defect.kind]
  · obtain ⟨_, _, _, rfl⟩ := leftOpen_eq_some.mp left
    simp [Defect.kind]

end FirstOffence

/-- What a scan under the failing policy reports, kind by kind: the first tag that
offends where it stands, with what was pending there, or else the innermost tag
that the whole text leaves open. What it counts are the elements completed before
that. -/
theorem scan_reports_first_offence (options : ScanOptions) (text : Text)
    (fails : options.overflow = .fail) :
    let limit := options.maxDepth
    let read := tags options text
    let outcome := scan options text
    (∀ name site span, outcome.defect = some (.unmatchedClose name site span) ↔
      ∃ before t, FirstOffence limit read before [] t ∧
        t.form = .closing ∧ t.name = name ∧ t.site = site ∧ t.span = span) ∧
    (∀ expected openedAt found site span,
      outcome.defect = some (.mismatch expected openedAt found site span) ↔
        ∃ before outer innermost t, FirstOffence limit read before (outer ++ [innermost]) t ∧
          t.form = .closing ∧ innermost.name = expected ∧ innermost.site = openedAt ∧
          t.name = found ∧ found ≠ expected ∧ t.site = site ∧ t.span = span) ∧
    (∀ bound site, outcome.defect = some (.tooDeep bound site) ↔
      ∃ before pending t, FirstOffence limit read before pending t ∧
        t.form = .opening ∧ pending.length = limit ∧ limit = bound ∧ t.site = site) ∧
    (∀ name site others, outcome.defect = some (.unclosed name site others) ↔
      Clean limit read ∧ ∃ outer innermost, Pending read (outer ++ [innermost]) ∧
        innermost.name = name ∧ innermost.site = site ∧ others = outer.length) ∧
    (∀ defect, outcome.defect = some defect →
      defect.kind ≠ .fileUnreadable ∧ defect.kind ≠ .outOfMemory) ∧
    (∀ before pending t, FirstOffence limit read before pending t →
      outcome.tagsChecked = singles before + namedClosings before) ∧
    (Clean limit read → outcome.tagsChecked = singles read + namedClosings read) := by
  intro limit read outcome
  refine ⟨?_, ?_, ?_, ?_, ?_, ?_, ?_⟩
  · intro name site span
    exact FirstOffence.scan_unmatchedClose_iff fails
  · intro expected openedAt found site span
    exact FirstOffence.scan_mismatch_iff fails
  · intro bound site
    exact FirstOffence.scan_tooDeep_iff fails
  · intro name site others
    exact FirstOffence.scan_unclosed_iff fails
  · intro defect found
    exact FirstOffence.scan_defect_kind fails found
  · intro before pending t first
    exact first.scan_tagsChecked fails
  · intro clean
    exact clean.scan_tagsChecked fails

theorem scan_reports_first_offence_crossed :
    let text : Text := "<a><b></a>".toUTF8.toList
    ({} : ScanOptions).overflow = .fail ∧
      ∃ before outer innermost t,
        FirstOffence 256 (tags {} text) before (outer ++ [innermost]) t ∧
          t.form = .closing ∧ innermost.name = "b" ∧ innermost.site = ⟨3, 1, 4⟩ ∧
          t.name = "a" ∧ "a" ≠ "b" ∧ t.site = ⟨6, 1, 7⟩ ∧ t.span = ⟨6, 4⟩ := by
  intro text
  have crossed : (scan {} text).defect =
      some (.mismatch "b" ⟨3, 1, 4⟩ "a" ⟨6, 1, 7⟩ ⟨6, 4⟩) := by decide +kernel
  exact ⟨rfl, ((scan_reports_first_offence {} text rfl).2.1 _ _ _ _ _).mp crossed⟩

end TagCheck
