/-
# Names that are cut off

Of a name no more than `maxNameLength` bytes are kept. What is left of a longer one falls
to the search for the end of the tag. That search does nothing on bytes of names, so it
ends where it would have ended had the name been read whole
(`Stride.openingTag_eq_whole`, `Stride.closingTag_eq_whole`). Two lexers that differ in
the limit alone are therefore in step after every tag, and what they find differs in
names only (`Lexer.lexemesAhead_shortened`), and in whether a name is that of a void
element.

That a tag ends with `/>` is read off the text (`Tag.SelfCloses`): its slash stands
neither in a quoted value nor between braces.
-/

import Mathlib.Data.List.Forall2
import TagCheck.Proofs.DefectSites
import TagCheck.Proofs.FirstDefect
import TagCheck.Proofs.MarkupTree

namespace TagCheck

/-! ## What corresponds -/

/-- The same options with another limit on names. -/
def ScanOptions.named (options : ScanOptions) (maxNameLength : Nat) : ScanOptions :=
  { options with maxNameLength := maxNameLength }

/-- A tag and the same tag with its name cut off. Cut off, a name can become that of a
void element or cease to be, but an opening tag never becomes a closing one. -/
structure Tag.Shortened (limit : Nat) (t u : Tag) : Prop where
  site : u.site = t.site
  stop : u.stop = t.stop
  closing : u.form = .closing ↔ t.form = .closing
  name : Byte.letters u.name = (Byte.letters t.name).take limit

inductive Lexeme.Shortened (limit : Nat) : Lexeme → Lexeme → Prop
  | tag {t u : Tag} (cut : t.Shortened limit u) : Shortened limit (.tag t) (.tag u)
  | typeBrackets (site : Position) (rule : Rule) :
      Shortened limit (.typeBrackets site rule) (.typeBrackets site rule)

inductive Finding.Shortened (limit : Nat) : Finding → Finding → Prop
  | tag {form form' : TagForm} {name name' : String}
      (closing : form' = .closing ↔ form = .closing)
      (cut : Byte.letters name' = (Byte.letters name).take limit) :
      Shortened limit (.tag form name) (.tag form' name')
  | typeBrackets (rule : Rule) : Shortened limit (.typeBrackets rule) (.typeBrackets rule)

/-- Strides of one length that lead to one mode, with findings whose names are cut off. -/
structure Stride.Shortened (limit : Nat) (s t : Stride) : Prop where
  length : t.length = s.length
  mode : t.mode = s.mode
  found : Option.Rel (Finding.Shortened limit) s.found t.found

/-! ## The rest of a name is passed over -/

variable {options : ScanOptions} {ahead : Text} {limit unlimited : Nat}

/-- What is kept of a name is the name cut off. -/
theorem bytes_eq_take (longer : ahead.length ≤ unlimited) :
    TagName.bytes limit ahead = (TagName.bytes unlimited ahead).take limit := by
  have name : (ahead.takeWhile TagName.isPart).length ≤ unlimited :=
    Nat.le_trans (List.takeWhile_prefix _).length_le longer
  rw [TagName.bytes, TagName.bytes, List.take_of_length_le name]

theorem bytes_ne_nil {first : UInt8} (rest : Text) (kept : 1 ≤ limit)
    (starts : TagName.isStart first = true) : TagName.bytes limit (first :: rest) ≠ [] := by
  obtain ⟨others, rfl⟩ := Nat.exists_eq_add_of_le' kept
  rw [bytes_cons, if_pos (TagName.isPart_of_isStart starts)]
  exact List.cons_ne_nil _ _

/-- An opening tag ends where the search for its end, begun with the name, ends. -/
theorem attributes_of_bytes (limit : Nat) (ahead : Text) :
    let name := TagName.bytes limit ahead
    let rest := attributes name.getLast? none 0 0 (ahead.drop name.length)
    attributes none none 0 0 ahead = ⟨name.length + rest.length, rest.selfClosing⟩ := by
  intro name rest
  have passed : Markup.PassedOver 0 name := .parts fun _ => TagName.isPart_of_mem_bytes
  have cut : ahead = name ++ ahead.drop name.length :=
    (List.prefix_iff_eq_append.mp (TagName.bytes_prefix limit ahead)).symm
  calc attributes none none 0 0 ahead
    _ = attributes none none 0 0 (name ++ ahead.drop name.length) := by rw [← cut]
    _ = attributes none none 0 name.length (ahead.drop name.length) := by
        rw [passed, Nat.zero_add]
    _ = ⟨name.length + rest.length, rest.selfClosing⟩ := by
        rw [attributes_passed, ← Markup.attributes_forget name.getLast?]

/-- A closing tag ends with the first bracket, whether that is sought from the name on or
from behind it. -/
theorem distance_of_bytes (limit : Nat) (ahead : Text) :
    let name := TagName.bytes limit ahead
    distance (· == Byte.greaterThan) ahead =
      name.length + distance (· == Byte.greaterThan) (ahead.drop name.length) := by
  intro name
  have cut : ahead = name ++ ahead.drop name.length :=
    (List.prefix_iff_eq_append.mp (TagName.bytes_prefix limit ahead)).symm
  have clear : ∀ b ∈ name, (b == Byte.greaterThan) = false := by
    intro b among
    rw [beq_eq_false_iff_ne]
    rintro rfl
    exact absurd (TagName.isPart_of_mem_bytes among) (by decide)
  have none : name.findIdx (· == Byte.greaterThan) = name.length :=
    List.findIdx_eq_length_of_false clear
  calc distance (· == Byte.greaterThan) ahead
    _ = distance (· == Byte.greaterThan) (name ++ ahead.drop name.length) := by rw [← cut]
    _ = name.length + distance (· == Byte.greaterThan) (ahead.drop name.length) := by
        rw [distance, List.findIdx_append, none, if_neg (Nat.lt_irrefl _), Nat.add_comm]
        rfl

namespace Stride

theorem openingTag_eq_whole (named : TagName.bytes options.maxNameLength ahead ≠ []) :
    openingTag options ahead =
      let name := Byte.spell (TagName.bytes options.maxNameLength ahead)
      let whole := attributes none none 0 0 ahead
      ⟨whole.length, .code,
        some (.tag (if whole.selfClosing || TagName.isVoid name then .single else .opening)
          name)⟩ := by
  rw [openingTag_of_named rfl named rfl]
  simp only [attributes_of_bytes options.maxNameLength ahead]

theorem closingTag_eq_whole (named : TagName.bytes options.maxNameLength ahead ≠ []) :
    closingTag options ahead =
      ⟨distance (· == Byte.greaterThan) ahead + 1, .code,
        some (.tag .closing (Byte.spell (TagName.bytes options.maxNameLength ahead)))⟩ := by
  rw [closingTag_of_named rfl named, distance_of_bytes options.maxNameLength ahead, Nat.add_assoc]

end Stride

/-! ## In step -/

theorem Finding.Shortened.spelled (longer : ahead.length ≤ unlimited) {form form' : TagForm}
    (closing : form' = .closing ↔ form = .closing) :
    Finding.Shortened limit (.tag form (Byte.spell (TagName.bytes unlimited ahead)))
      (.tag form' (Byte.spell (TagName.bytes limit ahead))) := by
  apply tag closing
  rw [TagName.letters_spell_bytes, TagName.letters_spell_bytes, bytes_eq_take longer]

namespace Stride

theorem Shortened.quiet {s : Stride} (nothing : s.found = none) : s.Shortened limit s := by
  refine ⟨rfl, rfl, ?_⟩
  rw [nothing]
  exact .none

theorem Shortened.behind {s t : Stride} (cut : s.Shortened limit t) (count : Nat) :
    (s.behind count).Shortened limit (t.behind count) :=
  ⟨congrArg (count + ·) cut.length, cut.mode, cut.found⟩

variable (options)

section Tags

variable (longer : ahead.length ≤ unlimited)
  (whole : TagName.bytes (options.named unlimited).maxNameLength ahead ≠ [])
  (short : TagName.bytes (options.named limit).maxNameLength ahead ≠ [])

include longer whole short

theorem closingTag_shortened :
    (closingTag (options.named unlimited) ahead).Shortened limit
      (closingTag (options.named limit) ahead) := by
  rw [closingTag_eq_whole whole, closingTag_eq_whole short]
  exact ⟨rfl, rfl, .some (.spelled longer Iff.rfl)⟩

theorem openingTag_shortened :
    (openingTag (options.named unlimited) ahead).Shortened limit
      (openingTag (options.named limit) ahead) := by
  have opens (ends : Bool) : (if ends then TagForm.single else .opening) ≠ .closing := by
    cases ends <;> exact TagForm.noConfusion
  rw [openingTag_eq_whole whole, openingTag_eq_whole short]
  exact ⟨rfl, rfl, .some (.spelled longer (iff_of_false (opens _) (opens _)))⟩

end Tags

variable (rule : Option Rule) (kept : 1 ≤ limit) (longer : ahead.length ≤ unlimited)

include kept longer

theorem tagBody_shortened (closing : Bool) :
    (tagBody (options.named unlimited) rule closing ahead).Shortened limit
      (tagBody (options.named limit) rule closing ahead) := by
  cases ahead with
  | nil => exact .quiet rfl
  | cons first rest =>
      simp only [tagBody]
      split
      · exact ⟨rfl, rfl, .some (.tag Iff.rfl List.take_nil.symm)⟩
      · split
        · exact .quiet rfl
        · rename_i _ starts
          have starts : TagName.isStart first = true := by simpa using starts
          have filled : 1 ≤ (first :: rest).length := Nat.succ_le_succ (Nat.zero_le _)
          have whole := bytes_ne_nil rest (Nat.le_trans filled longer) starts
          have short := bytes_ne_nil rest kept starts
          split
          · exact closingTag_shortened options longer whole short
          · cases rule with
            | some rule => exact ⟨rfl, rfl, .some (.typeBrackets rule)⟩
            | none => exact openingTag_shortened options longer whole short

theorem angleBracket_shortened :
    (angleBracket (options.named unlimited) rule ahead).Shortened limit
      (angleBracket (options.named limit) rule ahead) := by
  cases ahead with
  | nil => exact .quiet rfl
  | cons b rest =>
      simp only [angleBracket]
      split
      · exact .quiet rfl
      · split
        · have shorter : rest.length ≤ unlimited := Nat.le_of_succ_le longer
          exact (tagBody_shortened options rule kept shorter true).behind 1
        · exact tagBody_shortened options rule kept longer false

/-- A step under the limit passes what a step without one passes. -/
theorem read_shortened (mode : Mode) (previous : Option UInt8) :
    (read (options.named unlimited) mode previous rule ahead).Shortened limit
      (read (options.named limit) mode previous rule ahead) := by
  have openers : mode.commentOpened? (options.named unlimited) ahead =
      mode.commentOpened? (options.named limit) ahead := rfl
  cases ahead with
  | nil => exact .quiet rfl
  | cons b rest =>
      simp only [read, openers]
      split
      · exact .quiet rfl
      · split
        · exact .quiet rfl
        · cases mode with
          | lineComment host => exact .quiet rfl
          | quoted quote => exact .quiet rfl
          | blockComment host => exact .quiet (by simp only; split <;> rfl)
          | template depth => exact .quiet (by simp only; split <;> rfl)
          | code =>
              simp only
              split
              · have shorter : rest.length ≤ unlimited := Nat.le_of_succ_le longer
                exact (angleBracket_shortened options rule kept shorter).behind 1
              · exact .quiet rfl

end Stride

namespace Lexer

/-- A lexer under the limit is after each step where one without a limit is. -/
theorem step_shortened (options : ScanOptions) {l : Lexer} (kept : 1 ≤ limit)
    (longer : l.cursor.after.length ≤ unlimited) :
    (l.step (options.named limit)).1 = (l.step (options.named unlimited)).1 ∧
      Option.Rel (Lexeme.Shortened limit) (l.step (options.named unlimited)).2
        (l.step (options.named limit)).2 := by
  have strides : (l.stride (options.named unlimited)).Shortened limit
      (l.stride (options.named limit)) := Stride.read_shortened options _ kept longer _ _
  rw [step_eq_stride, step_eq_stride, strides.length, strides.mode]
  refine ⟨rfl, ?_⟩
  rw [Stride.land, Stride.land, strides.length]
  generalize (l.stride (options.named unlimited)).found = whole,
    (l.stride (options.named limit)).found = short, strides.found = found
  cases found with
  | none => exact .none
  | some cut =>
      cases cut with
      | tag closing name => exact .some (.tag ⟨rfl, rfl, closing, name⟩)
      | typeBrackets rule => exact .some (.typeBrackets _ rule)

theorem lexemesAhead_shortened (options : ScanOptions) {l : Lexer} (kept : 1 ≤ limit)
    (longer : l.cursor.after.length ≤ unlimited) :
    List.Forall₂ (Lexeme.Shortened limit) (l.lexemesAhead (options.named unlimited))
      (l.lexemesAhead (options.named limit)) := by
  apply lexemesAhead_forall₂ (fun l m => l = m ∧ l.cursor.after.length ≤ unlimited) _ _
    ⟨rfl, longer⟩
  · rintro l m ⟨rfl, _⟩
    exact Iff.rfl
  · rintro l m ⟨rfl, longer⟩ ahead
    have shorter := step_shortens (options.named unlimited) ahead
    obtain ⟨next, found⟩ := step_shortened options kept longer
    exact ⟨⟨next.symm, Nat.le_trans (Nat.le_of_lt shorter) longer⟩, found⟩

end Lexer

theorem tags_shortened (options : ScanOptions) {text : Text} (kept : 1 ≤ limit)
    (longer : text.length ≤ unlimited) :
    List.Forall₂ (Tag.Shortened limit) (tags (options.named unlimited) text)
      (tags (options.named limit) text) := by
  have lexemes : List.Forall₂ (Lexeme.Shortened limit)
      (Lexer.lexemes (options.named unlimited) text) (Lexer.lexemes (options.named limit) text) :=
    Lexer.lexemesAhead_shortened options (l := Lexer.ofText text) kept longer
  refine List.rel_filterMap ?_ lexemes
  intro whole short cut
  cases cut with
  | tag cut => exact .some cut
  | typeBrackets site rule => exact .none

/-! ## Tags that end with a slash -/

/-- The quote and the number of braces that are open in a tag behind some bytes of it. -/
def openInTag (previous quote : Option UInt8) (depth : Nat) : Text → Option UInt8 × Nat
  | [] => (quote, depth)
  | b :: rest => openInTag (some b) (quoteAfter previous b quote) (bracesAfter depth b quote) rest

/-- A tag ends with `/>` where no quoted value and no brace is open. -/
def Tag.SelfCloses (text : Text) (t : Tag) : Prop :=
  ∃ inside, t.span.cut text = Byte.lessThan :: (inside ++ [Byte.slash, Byte.greaterThan]) ∧
    openInTag none none 0 inside = (none, 0)

theorem attributes_selfClosing_iff (previous quote : Option UInt8) (depth : Nat) (text : Text) :
    (attributes previous quote depth 0 text).selfClosing = true ↔
      ∃ inside, text.take (attributes previous quote depth 0 text).length =
          inside ++ [Byte.slash, Byte.greaterThan] ∧
        openInTag previous quote depth inside = (none, 0) := by
  induction text generalizing previous quote depth with
  | nil =>
      refine iff_of_false Bool.false_ne_true ?_
      rintro ⟨inside, taken, _⟩
      exact List.append_ne_nil_of_right_ne_nil _ (List.cons_ne_nil _ _) taken.symm
  | cons b text ih =>
      rw [attributes_cons]
      cases ends : tagEnd? depth b text.head? quote with
      | none =>
          -- The byte ends nothing, so it belongs to what is inside, and is not all of it.
          simp only
          rw [attributes_passed, Nat.zero_add, Nat.add_comm, List.take_succ_cons, ih]
          constructor
          · rintro ⟨inside, taken, shut⟩
            exact ⟨b :: inside, congrArg (b :: ·) taken, shut⟩
          · rintro ⟨inside, taken, shut⟩
            cases inside with
            | nil =>
                obtain ⟨rfl, next⟩ := List.cons.inj taken
                obtain ⟨rfl, rfl⟩ := Prod.mk.inj shut
                obtain ⟨tail, rfl⟩ : [Byte.greaterThan] <+: text := next ▸ List.take_prefix _ _
                cases ends
            | cons c inside =>
                obtain ⟨rfl, others⟩ := List.cons.inj taken
                exact ⟨inside, others, shut⟩
      | some ending =>
          obtain ⟨rfl, rfl, ⟨rfl, next, rfl⟩ | ⟨rfl, rfl⟩⟩ := tagEnd?_eq_some ends
          · obtain ⟨tail, rfl⟩ := List.head?_eq_some_iff.mp next
            exact iff_of_true rfl ⟨[], rfl, rfl⟩
          · refine iff_of_false Bool.false_ne_true ?_
            rintro ⟨inside, taken, _⟩
            have lengths := congrArg List.length taken
            rw [List.length_append] at lengths
            simp at lengths

namespace Lexer

/-- The span of a tag cuts out of the text what the step that found it passed. -/
theorem cut_of_step {text : Text} {l : Lexer} {t : Tag} (stands : l.cursor.StandsIn text)
    (found : .tag t ∈ (l.step options).2) :
    t.span.cut text = l.cursor.after.take (l.stride options).length ∧
      (l.stride options).found = some (.tag t.form t.name) := by
  rw [Option.mem_def, step_found, Option.map_eq_some_iff] at found
  obtain ⟨finding, stride, same⟩ := found
  cases finding with
  | typeBrackets rule => cases same
  | tag form name =>
      cases same
      refine ⟨?_, stride⟩
      rw [Tag.span_eq, Span.cut, ← stands.after_eq, List.length_take, ← List.take_eq_take_min]

/-- A tag that is no closing one stands alone if and only if it ends with `/>` or has the
name, as far as it is kept, of a void element. -/
theorem single_iff_of_step {text : Text} {l : Lexer} {t : Tag}
    (stands : l.cursor.StandsIn text) (found : .tag t ∈ (l.step options).2)
    (other : t.form ≠ .closing) :
    t.form = .single ↔ t.SelfCloses text ∨ TagName.isVoid t.name = true := by
  obtain ⟨cut, stride⟩ := cut_of_step stands found
  obtain ⟨_, rest, s, ahead, finds, same⟩ := Stride.read_finds stride
  have same : l.stride options = s.behind 1 := same
  rw [Tag.SelfCloses, cut, ahead, same]
  rw [same] at stride
  simp only [Stride.behind, Nat.add_comm 1, List.take_succ_cons] at stride ⊢
  cases finds with
  | openingFragment rest =>
      obtain ⟨opens, unnamed⟩ := Finding.tag.inj (Option.some.inj stride)
      rw [← opens, ← unnamed]
      refine iff_of_false TagForm.noConfusion ?_
      rintro (⟨inside, bracket, _⟩ | void)
      · have lengths := congrArg List.length bracket
        simp at lengths
      · exact absurd void (by decide +kernel)
  | @openingTag first rest starts named unclaimed =>
      rw [Stride.openingTag_eq_whole named] at stride ⊢
      obtain ⟨form, name⟩ := Finding.tag.inj (Option.some.inj stride)
      rw [← form, ← name]
      simp only [List.cons.injEq, true_and, ← attributes_selfClosing_iff, ← Bool.or_eq_true]
      split
      · rename_i alone
        exact iff_of_true rfl alone
      · rename_i more
        exact iff_of_false TagForm.noConfusion more
  | closingFragment rest =>
      exact absurd (Finding.tag.inj (Option.some.inj stride)).1.symm other
  | closingTag starts named =>
      rw [Stride.closingTag_eq_whole named] at stride
      exact absurd (Finding.tag.inj (Option.some.inj stride)).1.symm other
  | typeBrackets => cases stride

end Lexer

theorem tags_single_iff (options : ScanOptions) (text : Text) :
    ∀ t ∈ tags options text, t.form ≠ .closing →
      (t.form = .single ↔ t.SelfCloses text ∨ TagName.isVoid t.name = true) := by
  have lexemes : ∀ lexeme ∈ Lexer.lexemes options text, ∀ t ∈ lexeme.tag?, t.form ≠ .closing →
      (t.form = .single ↔ t.SelfCloses text ∨ TagName.isVoid t.name = true) := by
    refine Lexer.forall_mem_lexemesAhead (l := Lexer.ofText text) ?_ ⟨rfl, rfl⟩
    intro l stands lexeme found t among
    cases lexeme with
    | typeBrackets site rule => cases among
    | tag u =>
        cases among
        exact Lexer.single_iff_of_step stands found
  intro t among
  obtain ⟨lexeme, member, isTag⟩ := List.mem_filterMap.mp among
  exact lexemes lexeme member t isTag

/-- How much of a name is kept makes no difference to where tags are. Under a limit of at
least one byte and under one that no name of the text exceeds, the same brackets begin
tags, which end at the same places, and the same of them are closing tags; of each name
the first bytes are kept, up to the limit. A tag that is no closing one stands alone if
and only if it ends with `/>`, which has nothing to do with the limit, or what is kept
of its name is the name of a void element. -/
theorem tags_named (options : ScanOptions) (text : Text) {limit unlimited : Nat}
    (kept : 1 ≤ limit) (longer : text.length ≤ unlimited) :
    List.Forall₂ (Tag.Shortened limit) (tags (options.named unlimited) text)
        (tags (options.named limit) text) ∧
      ∀ t ∈ tags (options.named limit) text, t.form ≠ .closing →
        (t.form = .single ↔ t.SelfCloses text ∨ TagName.isVoid t.name = true) :=
  ⟨tags_shortened options kept longer, tags_single_iff _ text⟩

theorem tags_named_void :
    let text : Text := "<break></break>".toUTF8.toList
    let whole : List Tag :=
      [⟨.opening, "break", ⟨0, 1, 1⟩, 7⟩, ⟨.closing, "break", ⟨7, 1, 8⟩, 15⟩]
    let short : List Tag := [⟨.single, "br", ⟨0, 1, 1⟩, 7⟩, ⟨.closing, "br", ⟨7, 1, 8⟩, 15⟩]
    1 ≤ 2 ∧ text.length ≤ 127 ∧
      tags (({} : ScanOptions).named 127) text = whole ∧
      tags (({} : ScanOptions).named 2) text = short ∧
      List.Forall₂ (Tag.Shortened 2) whole short ∧
      ∀ t ∈ short, t.form ≠ .closing →
        (t.form = .single ↔ t.SelfCloses text ∨ TagName.isVoid t.name = true) := by
  intro text whole short
  have kept : 1 ≤ 2 := by decide
  have longer : text.length ≤ 127 := by decide +kernel
  have wholeNames : tags (({} : ScanOptions).named 127) text = whole := by decide +kernel
  have shortNames : tags (({} : ScanOptions).named 2) text = short := by decide +kernel
  obtain ⟨shortened, alone⟩ := tags_named {} text kept longer
  rw [wholeNames, shortNames] at shortened
  rw [shortNames] at alone
  exact ⟨kept, longer, wholeNames, shortNames, shortened, alone⟩

end TagCheck
