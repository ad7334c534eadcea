/-
# Tags that the text breaks off

The search for the bracket that ends a tag stops at the end of the text just as it stops
behind the bracket, and the tag is met as if it were whole. So a text can break off inside a
tag and still be accepted. `scan_accepts_terminated_tags` says when: the tag is the last one,
and meeting it must leave nothing open. A closing tag can do that, and a void element, whose
name alone makes it a single tag. An opening tag cannot, unless it was dropped on a full stack
and never opened anything; what is recorded as open was ended by a bracket of its own.

`Lexer.terminated_of_step` is the part about one tag: it has its bracket, or the text is at its
end. `Nesting.meets_last` is the part about the nesting at that end.
-/

import Mathlib.Data.Nat.Find
import TagCheck.Proofs.EventReplay
import TagCheck.Proofs.TagEnds

namespace TagCheck

/-- The bracket at index `i` ends the tag. It is the first one behind the `<` of a closing tag,
and of any other tag the first that stands in no quoted value and between no braces. -/
def Tag.Bracket (text : Text) (t : Tag) : Nat → Prop :=
  FirstFrom (t.site.offset + 1) fun i =>
    text[i]? = some Byte.greaterThan ∧
      (t.form ≠ .closing → EndsTag text (t.site.offset + 1) i)

/-- The last byte of the tag is the bracket that ends it. -/
def Tag.Terminated (text : Text) (t : Tag) : Prop := ∃ i, t.Bracket text i ∧ t.stop = i + 1

/-! ## How far a tag reaches -/

/-- How many bytes a tag takes up behind its `<`. -/
def tagReach (form : TagForm) (ahead : Text) : Nat :=
  if form = .closing then distance (· == Byte.greaterThan) ahead + 1
  else (attributes none none 0 0 ahead).length

/-- The bracket at index `k` behind the `<` ends a tag of this form. -/
def TagEndsAhead (form : TagForm) (ahead : Text) (k : Nat) : Prop :=
  ahead[k]? = some Byte.greaterThan ∧ (form ≠ .closing → EndsAhead none none 0 ahead k)

theorem exists_first_or_none (P : Nat → Prop) : (∃ k, FirstFrom 0 P k) ∨ ∀ k, ¬ P k := by
  classical
  by_cases found : ∃ k, P k
  · exact .inl ⟨Nat.find found, Nat.zero_le _, Nat.find_spec found,
      fun k earlier _ => Nat.find_min found earlier⟩
  · exact .inr fun k holds => found ⟨k, holds⟩

theorem tagReach_closing (ahead : Text) :
    (∃ k, FirstFrom 0 (TagEndsAhead .closing ahead) k ∧ tagReach .closing ahead = k + 1) ∨
      ahead.length ≤ tagReach .closing ahead := by
  by_cases inside : distance (· == Byte.greaterThan) ahead < ahead.length
  · have bracket : (ahead[distance (· == Byte.greaterThan) ahead] == Byte.greaterThan) = true :=
      List.findIdx_getElem (w := inside)
    refine .inl ⟨distance (· == Byte.greaterThan) ahead, ⟨Nat.zero_le _, ⟨?_, ?_⟩, ?_⟩, rfl⟩
    · rw [List.getElem?_eq_getElem inside, eq_of_beq bracket]
    · exact fun other => absurd rfl other
    · rintro k earlier _ ⟨found, _⟩
      obtain ⟨_, same⟩ := List.getElem?_eq_some_iff.mp found
      have notFound := List.not_of_lt_findIdx earlier
      rw [same] at notFound
      cases notFound
  · exact .inr (Nat.le_succ_of_le (Nat.le_of_not_lt inside))

theorem tagReach_other {form : TagForm} (other : form ≠ .closing) (ahead : Text) :
    (∃ k, FirstFrom 0 (TagEndsAhead form ahead) k ∧ tagReach form ahead = k + 1) ∨
      ahead.length ≤ tagReach form ahead ∧
        (attributes none none 0 0 ahead).selfClosing = false := by
  have unquoted : ∀ q ∈ (none : Option UInt8), Byte.isQuote q := fun q among => by cases among
  rw [tagReach, if_neg other]
  rcases exists_first_or_none (EndsAhead none none 0 ahead) with ⟨k, first⟩ | endless
  · rw [attributes_of_first unquoted first]
    obtain ⟨onward, ends, earlier⟩ := first
    refine .inl ⟨k, ⟨onward, ⟨ends.1, fun _ => ends⟩, ?_⟩, rfl⟩
    intro j early start bracket
    exact earlier j early start (bracket.2 other)
  · rw [attributes_of_endless endless]
    exact .inr ⟨Nat.le_refl _, rfl⟩

/-- A tag reaches up to the first bracket that ends it, or to the end of the text, and then
has not come to a slash before such a bracket. -/
theorem tagReach_cases (form : TagForm) (ahead : Text) :
    (∃ k, FirstFrom 0 (TagEndsAhead form ahead) k ∧ tagReach form ahead = k + 1) ∨
      ahead.length ≤ tagReach form ahead ∧
        (form ≠ .closing → (attributes none none 0 0 ahead).selfClosing = false) := by
  by_cases closing : form = .closing
  · rw [closing]
    rcases tagReach_closing ahead with bracket | beyond
    · exact .inl bracket
    · exact .inr ⟨beyond, fun other => absurd rfl other⟩
  · rcases tagReach_other closing ahead with bracket | ⟨beyond, noSlash⟩
    · exact .inl bracket
    · exact .inr ⟨beyond, fun _ => noSlash⟩

/-- A tag takes up its `<` and what it reaches over behind it. -/
theorem Stride.read_tag {options : ScanOptions} {mode : Mode} {previous : Option UInt8}
    {rule : Option Rule} {ahead : Text} {form : TagForm} {name : String}
    (found : (read options mode previous rule ahead).found = some (.tag form name)) :
    ∃ rest, ahead = Byte.lessThan :: rest ∧
      (read options mode previous rule ahead).length = 1 + tagReach form rest ∧
      (form = .single → (attributes none none 0 0 rest).selfClosing = true ∨
        TagName.isVoid name = true) := by
  obtain ⟨_, rest, s, front, finds, same⟩ := read_finds found
  rw [same] at found ⊢
  refine ⟨rest, front, ?_⟩
  cases finds with
  | openingFragment rest =>
      cases found
      exact ⟨rfl, TagForm.noConfusion⟩
  | closingFragment rest =>
      cases found
      exact ⟨rfl, TagForm.noConfusion⟩
  | @closingTag first rest starts named =>
      rw [closingTag_eq_whole named] at found ⊢
      cases found
      -- The slash is passed like any other byte on the way to the bracket.
      have pastSlash : distance (· == Byte.greaterThan) (Byte.slash :: first :: rest) =
          distance (· == Byte.greaterThan) (first :: rest) + 1 := by
        rw [distance, List.findIdx_cons]
        rfl
      refine ⟨?_, TagForm.noConfusion⟩
      rw [tagReach, if_pos rfl, pastSlash, behind, behind, Nat.add_comm 1 (_ + 1)]
  | openingTag starts named unclaimed =>
      rw [openingTag_eq_whole named] at found ⊢
      simp only [behind] at found ⊢
      obtain ⟨rfl, rfl⟩ := Finding.tag.inj (Option.some.inj found)
      split
      · rename_i alone
        exact ⟨rfl, fun _ => (Bool.or_eq_true _ _).mp alone⟩
      · exact ⟨rfl, TagForm.noConfusion⟩
  | typeBrackets => cases found

/-- The bracket is found in the text where it is found ahead. -/
theorem Tag.bracket_of_first {text : Text} {t : Tag} {k : Nat}
    (first : FirstFrom 0 (TagEndsAhead t.form (text.drop (t.site.offset + 1))) k) :
    t.Bracket text (t.site.offset + 1 + k) := by
  refine (firstFrom_add_iff fun j => ?_).mpr first
  rw [TagEndsAhead, List.getElem?_drop, endsTag_iff_endsAhead]

/-- A tag has the bracket that ends it, or the text is at its end. There a tag that stands
alone does so for its name. -/
theorem Lexer.terminated_of_step {options : ScanOptions} {text : Text} {l : Lexer} {t : Tag}
    (stands : l.cursor.StandsIn text) (found : .tag t ∈ (l.step options).2) :
    t.Terminated text ∨ (l.step options).1.cursor.after = [] ∧ t.stop = text.length ∧
      (t.form = .single → TagName.isVoid t.name = true) := by
  rw [Option.mem_def, step_found, Option.map_eq_some_iff] at found
  obtain ⟨finding, stride, same⟩ := found
  cases finding with
  | typeBrackets rule => cases same
  | tag form name =>
      cases same
      obtain ⟨rest, front, length, alone⟩ := Stride.read_tag stride
      have reach : (l.stride options).length = 1 + tagReach form rest := length
      have behind : rest = text.drop (l.cursor.position.offset + 1) := by
        rw [← List.drop_drop, ← stands.after_eq, front, List.drop_one, List.tail_cons]
      have whole : l.cursor.position.offset + (rest.length + 1) = text.length := by
        rw [← stands.offset_add, front, List.length_cons]
      rw [step_eq_stride]
      simp only [Cursor.advance_after, reach, front, List.drop_eq_nil_iff, List.length_take,
        List.length_cons]
      rcases tagReach_cases form rest with ⟨k, first, reached⟩ | ⟨beyond, noSlash⟩
      · have inside : k < rest.length := (List.getElem?_eq_some_iff.mp first.2.1.1).1
        refine .inl ⟨_, Tag.bracket_of_first (behind ▸ first), ?_⟩
        simp only [reached]
        omega
      · refine .inr ⟨by omega, by omega, ?_⟩
        intro single
        have slash : (attributes none none 0 0 rest).selfClosing = false :=
          noSlash (single ▸ TagForm.noConfusion)
        rw [slash] at alone
        exact (alone single).resolve_left Bool.false_ne_true

/-! ## Tags at the end of an accepted text -/

namespace Nesting

variable {options : ScanOptions} {n m : Nesting}

/-- A tag after which nothing is open was not recorded as open. -/
theorem meets_last {t : Tag} (met : n.meet (.tag t) = .ok m) (finished : m.stack.finish = none) :
    t.form = .closing ∨ t.form = .single ∨
      t.form = .opening ∧ n.stack.policy = .truncate ∧ .dropped t.name t.site ∈ m.reported := by
  cases meets_of_meet met with
  | closed closes => exact .inl closes
  | single alone => exact .inr (.inl alone)
  | dropped opens full truncates => exact .inr (.inr ⟨opens, truncates, .head _⟩)
  | recorded opens room entries =>
      rw [TagStack.finish_eq, Option.map_eq_none_iff, List.head?_eq_none_iff, entries] at finished
      cases finished

/-- What is newly reported as pushed is an opening tag, which is then open. -/
theorem pushed_of_meet {lexeme : Lexeme} {name : String} {site : Position}
    (met : n.meet lexeme = .ok m) (among : .pushed name site ∈ m.reported) :
    .pushed name site ∈ n.reported ∨
      ∃ t, lexeme = .tag t ∧ t.form = .opening ∧ t.name = name ∧ t.site = site ∧
        m.stack.finish ≠ none := by
  cases meets_of_meet met with
  | typeBrackets | closed | dropped =>
      rcases List.mem_cons.mp among with now | before
      · cases now
      · exact .inl before
  | single alone => exact .inl among
  | @recorded t stack opens room entries =>
      rcases List.mem_cons.mp among with now | before
      · cases now
        refine .inr ⟨t, rfl, opens, rfl, rfl, ?_⟩
        rw [TagStack.finish_eq, entries]
        exact Option.some_ne_none _
      · exact .inl before

end Nesting

/-- The text breaks off inside the tag, and the tag leaves nothing open: it closes something,
or stands alone for its name, or was dropped on a full stack. -/
def Tag.BreaksOff (options : ScanOptions) (text : Text) (events : List Event) (t : Tag) : Prop :=
  t.stop = text.length ∧
    (t.form = .closing ∨ t.form = .single ∧ TagName.isVoid t.name = true ∨
      t.form = .opening ∧ options.overflow = .truncate ∧ .dropped t.name t.site ∈ events)

namespace Nesting

variable {options : ScanOptions} {text : Text} {l : Lexer} {n m : Nesting}

/-- Nothing is met behind a tag without its bracket. -/
theorem settle_last {t : Tag} (stands : l.cursor.StandsIn text)
    (found : .tag t ∈ (l.step options).2) (unterminated : ¬ t.Terminated text) (m : Nesting) :
    m.settle ((l.step options).1.lexemesAhead options) = m.outcome m.stack.finish := by
  obtain ⟨ended, _⟩ := (Lexer.terminated_of_step stands found).resolve_left unterminated
  rw [Lexer.lexemesAhead_of_end options ended]
  rfl

/-- A tag that was met on the way to an accepted end is terminated or the last one. -/
theorem ends_of_met {t : Tag} (stands : l.cursor.StandsIn text)
    (bounded : n.stack.Bounded options) (found : .tag t ∈ (l.step options).2)
    (met : n.meet (.tag t) = .ok m)
    (accepted : (m.settle ((l.step options).1.lexemesAhead options)).defect = none) :
    t.Terminated text ∨
      t.BreaksOff options text (m.settle ((l.step options).1.lexemesAhead options)).events := by
  by_cases terminated : t.Terminated text
  · exact .inl terminated
  · obtain ⟨_, stop, single⟩ := (Lexer.terminated_of_step stands found).resolve_left terminated
    rw [settle_last stands found terminated] at accepted ⊢
    refine .inr ⟨stop, ?_⟩
    rcases meets_last met accepted with closes | alone | ⟨opens, truncates, dropped⟩
    · exact .inl closes
    · exact .inr (.inl ⟨alone, single alone⟩)
    · exact .inr (.inr ⟨opens, bounded.policy.symm.trans truncates, List.mem_reverse.mpr dropped⟩)

/-- A tag that was met and left something open is terminated. -/
theorem terminated_of_held {t : Tag} (stands : l.cursor.StandsIn text)
    (found : .tag t ∈ (l.step options).2)
    (accepted : (m.settle ((l.step options).1.lexemesAhead options)).defect = none)
    (held : m.stack.finish ≠ none) : t.Terminated text := by
  by_contra unterminated
  rw [settle_last stands found unterminated] at accepted
  exact held accepted

/-- So it is for all tags ahead if the text is accepted in the end, and whatever is reported
as pushed on the way is terminated. -/
theorem ends_of_accepted (l : Lexer) (n : Nesting) (stands : l.cursor.StandsIn text)
    (bounded : n.stack.Bounded options)
    (accepted : (n.settle (l.lexemesAhead options)).defect = none) :
    (∀ t, .tag t ∈ l.lexemesAhead options → t.Terminated text ∨
      t.BreaksOff options text (n.settle (l.lexemesAhead options)).events) ∧
    ∀ name site, .pushed name site ∈ (n.settle (l.lexemesAhead options)).events →
      .pushed name site ∈ n.reported ∨
        ∃ t, .tag t ∈ l.lexemesAhead options ∧ t.form = .opening ∧ t.name = name ∧
          t.site = site ∧ t.Terminated text := by
  induction l using Lexer.steps_induction options generalizing n with
  | ended l atEnd =>
      rw [Lexer.lexemesAhead_of_end options atEnd]
      refine ⟨fun t among => absurd among List.not_mem_nil, ?_⟩
      intro name site among
      exact .inl (List.mem_reverse.mp among)
  | stepped l ahead ih =>
      have onward : (l.step options).1.cursor.StandsIn text := by
        rw [Lexer.step_eq_stride]
        exact stands.advance _
      rw [Lexer.lexemesAhead_of_ahead options ahead] at accepted ⊢
      cases found : (l.step options).2 with
      | none =>
          rw [found] at accepted
          exact ih n onward bounded accepted
      | some lexeme =>
          rw [found] at accepted
          simp only [Option.toList_some, List.singleton_append, settle, List.mem_cons]
            at accepted ⊢
          cases met : n.meet lexeme with
          | error defect =>
              rw [met] at accepted
              cases accepted
          | ok m =>
              rw [met] at accepted
              obtain ⟨tags, pushes⟩ := ih m onward (bounded_of_meet bounded met) accepted
              refine ⟨?_, ?_⟩
              · rintro t (rfl | later)
                · exact ends_of_met stands bounded found met accepted
                · exact tags t later
              · intro name site among
                rcases pushes name site among with reported | ⟨t, later, opening⟩
                · rcases pushed_of_meet met reported with before | ⟨t, rfl, opens, named, at', held⟩
                  · exact .inl before
                  · exact .inr ⟨t, .inl rfl, opens, named, at',
                      terminated_of_held stands found accepted held⟩
                · exact .inr ⟨t, .inr later, opening⟩

end Nesting

theorem mem_tags_iff {options : ScanOptions} {text : Text} {t : Tag} :
    t ∈ tags options text ↔ .tag t ∈ Lexer.lexemes options text := by
  rw [tags, List.mem_filterMap]
  constructor
  · rintro ⟨lexeme, among, same⟩
    cases lexeme with
    | tag u => exact Option.some.inj same ▸ among
    | typeBrackets site rule => cases same
  · intro among
    exact ⟨_, among, rfl⟩

/-- In an accepted text every tag is terminated by its own bracket, except that the text may
break off inside the last one. Then that is a closing tag, or the tag of a void element, or an
opening tag that the truncating policy dropped. Every opening tag that was recorded as open
is terminated. -/
theorem scan_accepts_terminated_tags {options : ScanOptions} {text : Text}
    (accepted : (scan options text).defect = none) :
    (∀ t ∈ tags options text, t.Terminated text ∨
      t.BreaksOff options text (scan options text).events) ∧
    ∀ name site, .pushed name site ∈ (scan options text).events →
      ∃ t ∈ tags options text, t.form = .opening ∧ t.name = name ∧ t.site = site ∧
        t.Terminated text := by
  obtain ⟨ends, pushes⟩ := Nesting.ends_of_accepted (Lexer.ofText text) (Nesting.start options)
    ⟨rfl, rfl⟩ (.start options) accepted
  refine ⟨fun t among => ends t (mem_tags_iff.mp among), ?_⟩
  intro name site among
  rcases pushes name site among with before | ⟨t, found, opening⟩
  · cases before
  · exact ⟨t, mem_tags_iff.mpr found, opening⟩

theorem scan_accepts_terminated_tags_void :
    let text : Text := "<a></a><br".toUTF8.toList
    (scan {} text).defect = none ∧
      (∀ t ∈ tags {} text, t.Terminated text ∨ t.BreaksOff {} text (scan {} text).events) ∧
      ∃ t ∈ tags {} text, t.form = .opening ∧ t.name = "a" ∧ t.site = ⟨0, 1, 1⟩ ∧
        t.Terminated text := by
  intro text
  have accepted : (scan {} text).defect = none := by decide +kernel
  have pushed : .pushed "a" ⟨0, 1, 1⟩ ∈ (scan {} text).events := by decide +kernel
  obtain ⟨ends, pushes⟩ := scan_accepts_terminated_tags accepted
  exact ⟨accepted, ends, pushes "a" ⟨0, 1, 1⟩ pushed⟩

/-- The tags of an accepted text are not all terminated, even where none was dropped. -/
theorem cut_off_tag_accepted :
    ¬ ∀ (options : ScanOptions) (text : Text), 1 ≤ options.maxNameLength →
      (scan options text).defect = none → ∀ t ∈ tags options text,
        (t.form = .opening → .pushed t.name t.site ∈ (scan options text).events) →
          t.Terminated text := by
  intro terminated
  let text : Text := "<div></div".toUTF8.toList
  let t : Tag := ⟨.closing, "div", ⟨5, 1, 6⟩, 10⟩
  have accepted : (scan {} text).defect = none := by decide +kernel
  have found : t ∈ tags {} text := by decide +kernel
  obtain ⟨i, ⟨_, ⟨bracket, _⟩, _⟩, stop⟩ :=
    terminated {} text (by decide) accepted t found TagForm.noConfusion
  have last : i = 9 := Nat.succ.inj stop.symm
  have other : text[9]? ≠ some Byte.greaterThan := by decide +kernel
  exact other (last ▸ bracket)

end TagCheck
