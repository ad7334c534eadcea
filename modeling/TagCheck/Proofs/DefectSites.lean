/-
# What a defect points at

A defect is reported long after the bytes it speaks of were read: the stack keeps the
name and the position of an opening tag, and a mark is computed from both when the tag
turns out to be unclosed or crossed. This module ties the report to the text again.
While a run goes on, every open tag stands in the text where the stack says
(`Visits.opensAt`); a defect therefore names exact positions of brackets
(`scan_positions_exact`), and its labels cut out of the text the tags that it talks
about (`scan_labels_mark_tags`).
-/

import TagCheck.Proofs.Positions
import TagCheck.Proofs.TagText

namespace TagCheck

/-- The bytes under a span. -/
def Span.cut (s : Span) (text : Text) : Text := (text.drop s.start).take s.length

/-- An opening tag of this name stands at `site`. -/
structure OpensAt (text : Text) (name : String) (site : Position) : Prop where
  exact : site.Exact text
  begins : openingText name <+: text.drop site.offset

/-- A closing tag of this name stands at `site` and takes up `span`. -/
structure ClosesAt (text : Text) (name : String) (site : Position) (span : Span) : Prop where
  exact : site.Exact text
  start : span.start = site.offset
  inside : span.stop ≤ text.length
  closes : ClosesAs name (span.cut text) (text.drop span.stop)

/-- The tags that a defect speaks of stand in the text where it says. -/
inductive Defect.Located (text : Text) : Defect → Prop
  | unmatchedClose {name : String} {site : Position} {span : Span}
      (close : ClosesAt text name site span) : Located text (.unmatchedClose name site span)
  | mismatch {expected found : String} {openedAt site : Position} {span : Span}
      (opening : OpensAt text expected openedAt) (close : ClosesAt text found site span) :
      Located text (.mismatch expected openedAt found site span)
  | unclosed {name : String} {site : Position} (others : Nat) (opening : OpensAt text name site) :
      Located text (.unclosed name site others)
  | tooDeep {name : String} {site : Position} (limit : Nat) (opening : OpensAt text name site) :
      Located text (.tooDeep limit site)

/-! ## Tags found on the way -/

namespace Scanner

variable {options : ScanOptions} {text : Text} {s : Scanner} {name : String}

theorem Visits.opensAt_of_found (visits : Visits options text s)
    (found : (s.lexer.stride options).found = some (.tag .opening name)) :
    OpensAt text name s.lexer.cursor.position := by
  refine ⟨visits.standsIn.exact, ?_⟩
  rw [← visits.standsIn.after_eq]
  exact Stride.read_opening found

theorem Visits.closesAt_of_found (visits : Visits options text s)
    (found : (s.lexer.stride options).found = some (.tag .closing name)) :
    ClosesAt text name s.lexer.cursor.position
      ⟨s.offset, (s.ahead.take (s.lexer.stride options).length).length⟩ := by
  have after : text.drop s.offset = s.ahead := visits.standsIn.after_eq.symm
  have within : s.offset ≤ text.length := visits.standsIn.exact.within
  have length : s.ahead.length = text.length - s.offset := by rw [← after, List.length_drop]
  refine ⟨visits.standsIn.exact, rfl, ?_, ?_⟩
  · change s.offset + (s.ahead.take _).length ≤ text.length
    rw [List.length_take]
    omega
  · have closes := Stride.read_closing found
    rw [List.take_eq_take_min, List.drop_eq_drop_min] at closes
    change ClosesAs name ((text.drop s.offset).take (s.ahead.take _).length)
      (text.drop (s.offset + (s.ahead.take _).length))
    rw [← List.drop_drop, after, List.length_take]
    exact closes

/-- What is open stands in the text where the stack has it. -/
theorem Visits.opensAt (visits : Visits options text s) {e : OpenTag}
    (among : e ∈ s.nesting.stack.entries) : OpensAt text e.name e.site := by
  induction visits with
  | refl => cases among
  | @tail s t visits steps ih =>
      rcases steps.mem_entries among with before | ⟨found, site⟩
      · exact ih before
      · rw [site]
        exact Visits.opensAt_of_found visits found

end Scanner

/-! ## Defects -/

open Scanner in
/-- A defect that a scan finds speaks of tags that are there. -/
theorem scan_defect_located {options : ScanOptions} {text : Text} {defect : Defect}
    (found : (scan options text).defect = some defect) : defect.Located text := by
  rcases scan_defect_cases found with ⟨s, visits, left⟩ | ⟨t, s, visits, _, stepped⟩
  · rw [TagStack.finish_eq, Option.map_eq_some_iff] at left
    obtain ⟨innermost, top, rfl⟩ := left
    exact .unclosed _ (visits.opensAt (List.mem_of_head? top))
  · obtain ⟨_, form, name, stride, failed⟩ := tag_of_step stepped
    rcases Nesting.meet_eq_error failed with ⟨closes, kind⟩ | ⟨opens, _, kind⟩
    · cases closes
      have close := Visits.closesAt_of_found visits stride
      rw [Scanner.offset, Tag.span_eq] at kind
      rcases kind with ⟨_, rfl⟩ | ⟨innermost, outer, filled, rfl⟩
      · exact .unmatchedClose close
      · exact .mismatch (Visits.opensAt visits (filled ▸ List.mem_cons_self)) close
    · cases opens
      rw [kind]
      exact .tooDeep _ (Visits.opensAt_of_found visits stride)

/-- The places in the text that a defect names. -/
def Defect.sites : Defect → List Position
  | unmatchedClose _ site _ | unclosed _ site _ | tooDeep _ site => [site]
  | mismatch _ openedAt _ site _ => [site, openedAt]
  | unreadable .. | outOfMemory .. => []

theorem getElem?_of_prefix {b : UInt8} {rest text : Text} {offset : Nat}
    (begins : b :: rest <+: text.drop offset) : text[offset]? = some b := by
  obtain ⟨tail, cut⟩ := begins
  rw [← List.head?_drop, ← cut]
  rfl

theorem OpensAt.bracket {text : Text} {name : String} {site : Position}
    (opening : OpensAt text name site) : text[site.offset]? = some Byte.lessThan :=
  getElem?_of_prefix opening.begins

theorem ClosesAt.bracket {text : Text} {name : String} {site : Position} {span : Span}
    (close : ClosesAt text name site span) : text[site.offset]? = some Byte.lessThan := by
  apply getElem?_of_prefix
  rw [← close.start]
  exact close.closes.begins.trans (List.take_prefix _ _)

/-- At every place of a run the position is exact, also behind the step that meets a
defect, and the text ahead is what is left from there. Every position that a defect
names is exact too, and that of a bracket. -/
theorem scan_positions_exact (options : ScanOptions) (text : Text) :
    (∀ s, Scanner.Visits options text s →
      s.ahead = text.drop s.offset ∧ s.lexer.cursor.position.Exact text ∧
        (s.step options).1.lexer.cursor.position.Exact text) ∧
    ∀ defect, (scan options text).defect = some defect → ∀ site ∈ defect.sites,
      site.Exact text ∧ text[site.offset]? = some Byte.lessThan := by
  refine ⟨?_, ?_⟩
  · intro s visits
    exact ⟨visits.standsIn.after_eq, visits.standsIn.exact, visits.standsIn_step.exact⟩
  · intro defect found site among
    cases scan_defect_located found with
    | unmatchedClose close =>
        cases List.mem_singleton.mp among
        exact ⟨close.exact, close.bracket⟩
    | mismatch opening close =>
        rcases List.mem_cons.mp among with rfl | among
        · exact ⟨close.exact, close.bracket⟩
        · cases List.mem_singleton.mp among
          exact ⟨opening.exact, opening.bracket⟩
    | unclosed others opening =>
        cases List.mem_singleton.mp among
        exact ⟨opening.exact, opening.bracket⟩
    | tooDeep limit opening =>
        cases List.mem_singleton.mp among
        exact ⟨opening.exact, opening.bracket⟩

theorem scan_positions_exact_second_line :
    let text : Text := "<a>\n é<b></c>".toUTF8.toList
    (scan {} text).defect = some (.mismatch "b" ⟨7, 2, 3⟩ "c" ⟨10, 2, 6⟩ ⟨10, 4⟩) ∧
      Position.Exact text ⟨10, 2, 6⟩ ∧ Position.Exact text ⟨7, 2, 3⟩ := by
  intro text
  have crossed : (scan {} text).defect =
      some (.mismatch "b" ⟨7, 2, 3⟩ "c" ⟨10, 2, 6⟩ ⟨10, 4⟩) := by decide +kernel
  have exact := (scan_positions_exact {} text).2 _ crossed
  exact ⟨crossed, (exact _ List.mem_cons_self).1,
    (exact _ (List.mem_cons_of_mem _ List.mem_cons_self)).1⟩

/-! ## Labels -/

/-- What the labels of a defect cut out of a text, label by label. -/
def Defect.MarksTags (text : Text) (d : Defect) : Prop :=
  match d with
  | unmatchedClose name _ _ =>
      ∃ close, d.labels.map (·.span) = [close] ∧
        ClosesAs name (close.cut text) (text.drop close.stop)
  | mismatch expected _ found _ _ =>
      ∃ close opening, d.labels.map (·.span) = [close, opening] ∧
        ClosesAs found (close.cut text) (text.drop close.stop) ∧
        opening.cut text = openingText expected
  | unclosed name _ _ =>
      ∃ opening, d.labels.map (·.span) = [opening] ∧ opening.cut text = openingText name
  | tooDeep _ _ =>
      ∃ bracket, d.labels.map (·.span) = [bracket] ∧ bracket.cut text = [Byte.lessThan]
  | unreadable _ _ | outOfMemory _ => False

namespace OpensAt

variable {text : Text} {name : String} {site : Position}

theorem cut_openingSpan (opening : OpensAt text name site) :
    (Defect.openingSpan name site).cut text = openingText name := by
  rw [Defect.openingSpan, Span.cut, ← length_openingText]
  exact (List.prefix_iff_eq_take.mp opening.begins).symm

theorem stop_le (opening : OpensAt text name site) :
    site.offset + (openingText name).length ≤ text.length := by
  have within := opening.exact.within
  have fits := opening.begins.length_le
  rw [List.length_drop] at fits
  omega

theorem openingSpan_stop_le (opening : OpensAt text name site) :
    (Defect.openingSpan name site).stop ≤ text.length := by
  rw [Defect.openingSpan, Span.stop, ← length_openingText]
  exact opening.stop_le

theorem cut_bracket (opening : OpensAt text name site) :
    Span.cut ⟨site.offset, 1⟩ text = [Byte.lessThan] := by
  obtain ⟨tail, cut⟩ := opening.begins
  rw [Span.cut, ← cut]
  rfl

end OpensAt

/-- The labels of a defect lie in the text and cut out the tags that it speaks of: a
closing tag up to its bracket or the end of the text, an opening tag up to its name, and
of a tag too many the bracket. -/
theorem scan_labels_mark_tags (options : ScanOptions) (text : Text) (defect : Defect)
    (found : (scan options text).defect = some defect) :
    (∀ label ∈ defect.labels, label.span.stop ≤ text.length) ∧ defect.MarksTags text := by
  cases scan_defect_located found with
  | unmatchedClose close =>
      refine ⟨List.forall_mem_singleton.mpr close.inside, _, rfl, close.closes⟩
  | mismatch opening close =>
      refine ⟨?_, _, _, rfl, close.closes, opening.cut_openingSpan⟩
      exact List.forall_mem_cons.mpr
        ⟨close.inside, List.forall_mem_singleton.mpr opening.openingSpan_stop_le⟩
  | unclosed others opening =>
      exact ⟨List.forall_mem_singleton.mpr opening.openingSpan_stop_le, _, rfl,
        opening.cut_openingSpan⟩
  | tooDeep limit opening =>
      refine ⟨List.forall_mem_singleton.mpr ?_, _, rfl, opening.cut_bracket⟩
      exact Nat.le_trans (Nat.add_le_add_left (Nat.le_add_left 1 _) _) opening.stop_le

theorem scan_labels_mark_tags_cut_off :
    let options : ScanOptions := { maxNameLength := 2 }
    let text : Text := "<abc></xyz".toUTF8.toList
    let defect : Defect := .mismatch "ab" ⟨0, 1, 1⟩ "xy" ⟨5, 1, 6⟩ ⟨5, 5⟩
    (scan options text).defect = some defect ∧
      (∀ label ∈ defect.labels, label.span.stop ≤ text.length) ∧ defect.MarksTags text := by
  intro options text defect
  have crossed : (scan options text).defect = some defect := by decide +kernel
  exact ⟨crossed, scan_labels_mark_tags options text defect crossed⟩

end TagCheck
