/-
# Brackets that begin nothing

A `<` in code that turns out to begin no tag and no type arguments is passed, and the scan
goes on behind it. Behind most such brackets it goes on as if the bracket had been any other
byte of code. A bracket with a slash behind it is different: it is read as the start of a
closing tag until its name turns out to be missing, and by then the slash has been passed as
well. If the slash was the first byte of a comment opener, that comment is not seen.

`Stride.angleBracket_of_lone` says how far such a bracket goes, and
`lone_bracket_transparent_iff` what this does to the run: it is that of a scanner that passes
the bracket alone exactly if no comment opens right behind the bracket.
-/

import TagCheck.Proofs.RegionEnds

namespace TagCheck

namespace Stride

variable {options : ScanOptions}

theorem closingTag_of_lone {ahead : Text} (lone : (closingTag options ahead).found = none) :
    closingTag options ahead = plain 0 := by
  by_cases named : TagName.bytes options.maxNameLength ahead = []
  · exact closingTag_of_unnamed named
  · rw [closingTag_of_named rfl named] at lone
    cases lone

theorem openingTag_of_lone {ahead : Text} (lone : (openingTag options ahead).found = none) :
    openingTag options ahead = plain 0 := by
  by_cases named : TagName.bytes options.maxNameLength ahead = []
  · exact openingTag_of_unnamed named
  · rw [openingTag_of_named rfl named rfl] at lone
    cases lone

theorem tagBody_of_lone {rule : Option Rule} {closing : Bool} {ahead : Text}
    (lone : (tagBody options rule closing ahead).found = none) :
    tagBody options rule closing ahead = plain 0 := by
  cases ahead with
  | nil => rfl
  | cons first rest =>
      simp only [tagBody] at lone ⊢
      split at lone
      · cases lone
      · rename_i notBracket
        rw [if_neg notBracket]
        split at lone
        · rename_i noStart
          rw [if_pos noStart]
        · rename_i start
          rw [if_neg start]
          cases closing with
          | true => exact closingTag_of_lone lone
          | false =>
              cases rule with
              | none => exact openingTag_of_lone lone
              | some rule => cases lone

/-- Behind a bracket that begins nothing, a slash is passed and nothing else. -/
theorem angleBracket_of_lone {rule : Option Rule} {rest : Text}
    (lone : (angleBracket options rule rest).found = none) :
    angleBracket options rule rest = plain (if rest.head? = some Byte.slash then 1 else 0) := by
  cases rest with
  | nil => rfl
  | cons b rest =>
      simp only [List.head?_cons, Option.some.injEq]
      simp only [angleBracket] at lone ⊢
      split at lone
      · rename_i operator
        have notSlash : b ≠ Byte.slash := by
          rintro rfl
          exact absurd operator (by decide)
        rw [if_pos operator, if_neg notSlash]
      · rename_i noOperator
        rw [if_neg noOperator]
        split at lone
        · rename_i slash
          rw [if_pos slash, if_pos slash, tagBody_of_lone lone]
          rfl
        · rename_i notSlash
          rw [if_neg notSlash, if_neg notSlash, tagBody_of_lone lone]

/-- A slash in code at which no comment opens is passed alone. -/
theorem read_slash {rest : Text}
    (unopened : Mode.commentOpened? options .code (Byte.slash :: rest) = none)
    (previous : Option UInt8) (rule : Option Rule) :
    read options .code previous rule (Byte.slash :: rest) = plain 1 := by
  have ordinary : Byte.slash ≠ Byte.lineFeed := by decide
  simp only [read, if_neg ordinary, unopened]
  rfl

/-- Where a comment opens in code, its opener is passed and no more. -/
theorem read_opened {ahead : Text} {comment : Mode}
    (opened : Mode.commentOpened? options .code ahead = some comment)
    (previous : Option UInt8) (rule : Option Rule) :
    read options .code previous rule ahead = ⟨2, comment, none⟩ := by
  obtain ⟨host, rest, hosted, ⟨rfl, rfl⟩ | ⟨rfl, rfl⟩⟩ := Mode.commentOpened?_eq_some opened
  all_goals
    cases hosted
    rfl

end Stride

namespace Scanner

variable {options : ScanOptions}

/-- The scanner behind the bracket ahead, with nothing but the bracket passed. -/
def pastBracket (s : Scanner) : Scanner := ⟨⟨s.lexer.cursor.next, .code⟩, s.nesting⟩

section Bracket

variable {s : Scanner} {rest : Text}

theorem pastBracket_ahead (bracket : s.ahead = Byte.lessThan :: rest) :
    s.pastBracket.ahead = rest := by
  change s.lexer.cursor.next.after = rest
  rw [Cursor.next_after, show s.lexer.cursor.after = _ from bracket, List.tail_cons]

theorem advance_offset {count : Nat} (inside : count ≤ s.ahead.length) :
    (s.lexer.cursor.advance count).position.offset = s.offset + count := by
  rw [Cursor.advance_eq, Position.past_offset, List.length_take]
  exact congrArg (s.offset + ·) (Nat.min_eq_left inside)

theorem pastBracket_offset (bracket : s.ahead = Byte.lessThan :: rest) :
    s.pastBracket.offset = s.offset + 1 := by
  have filled : 1 ≤ s.ahead.length := by
    rw [bracket]
    exact Nat.le_add_left ..
  exact advance_offset filled

/-- A plain stretch of code is passed with the nesting as it was. -/
theorem steps_plain {length : Nat} (ahead : s.ahead ≠ [])
    (plain : s.lexer.stride options = Stride.plain length) :
    Steps options s ⟨⟨s.lexer.cursor.advance length, .code⟩, s.nesting⟩ := by
  have steps := steps_of_quiet ahead (congrArg Stride.found plain)
  rw [plain] at steps
  exact steps

/-- From behind the bracket alone a comment opener is seen, and passed in one step. -/
theorem pastBracket_opens {comment : Mode} (bracket : s.ahead = Byte.lessThan :: rest)
    (opened : Mode.commentOpened? options .code rest = some comment) :
    ∃ u, Steps options s.pastBracket u ∧ u.mode = comment ∧ u.offset = s.offset + 3 := by
  obtain ⟨first, second, post, rfl⟩ := Lexer.commentOpened?_pair opened
  have behind : s.pastBracket.ahead = [first, second] ++ post := pastBracket_ahead bracket
  obtain ⟨u, steps, _, inComment, _, further⟩ := steps_past options behind (List.cons_ne_nil _ _)
    ((stride_eq rfl behind).trans (Stride.read_opened opened _ _))
  rw [pastBracket_offset bracket] at further
  exact ⟨u, steps, inComment, further⟩

/-- So the run from there has no place between the two bytes of the opener. -/
theorem not_reaches_inside_opener {comment : Mode} {t : Scanner}
    (bracket : s.ahead = Byte.lessThan :: rest)
    (opened : Mode.commentOpened? options .code rest = some comment)
    (inside : t.offset = s.offset + 2) : ¬ Reaches options s.pastBracket t := by
  intro reaches
  obtain ⟨u, opens, _, beyond⟩ := pastBracket_opens bracket opened
  rcases reaches.cases_head with rfl | ⟨v, steps, onward⟩
  · rw [pastBracket_offset bracket] at inside
    omega
  · have notFurther := Reaches.offset_le onward
    rw [steps_rightUnique steps opens] at notFurther
    omega

/-- A bracket in code that begins no lexeme is passed without a defect and changes neither the
mode nor the nesting. A slash right behind it is passed with it. So the run goes through the
place behind the bracket alone, and goes on from there, if and only if no comment opener
follows the bracket. -/
theorem lone_bracket_transparent_iff (inCode : s.mode = .code)
    (bracket : s.ahead = Byte.lessThan :: rest) (lone : (s.lexer.step options).2 = none) :
    ∃ t, Steps options s t ∧ t.mode = .code ∧ t.nesting = s.nesting ∧
      t.offset = s.offset + (if rest.head? = some Byte.slash then 2 else 1) ∧
      (Reaches options s.pastBracket t ↔ Mode.commentOpened? options .code rest = none) := by
  have filled : s.ahead ≠ [] := by
    rw [bracket]
    exact List.cons_ne_nil _ _
  have behind := pastBracket_ahead bracket
  have passed : s.lexer.stride options =
      Stride.plain (1 + if rest.head? = some Byte.slash then 1 else 0) := by
    have read : s.lexer.stride options = _ :=
      (stride_eq inCode bracket).trans (Stride.read_bracket _ rest)
    rw [Lexer.step_found, Option.map_eq_none_iff, read] at lone
    rw [read, Stride.angleBracket_of_lone lone]
    rfl
  by_cases slash : rest.head? = some Byte.slash
  · obtain ⟨tail, rfl⟩ := List.head?_eq_some_iff.mp slash
    rw [if_pos slash] at passed ⊢
    have further : (s.lexer.cursor.advance 2).position.offset = s.offset + 2 :=
      advance_offset (by simp [bracket])
    refine ⟨_, steps_plain filled passed, rfl, rfl, further, ?_⟩
    cases opened : Mode.commentOpened? options .code (Byte.slash :: tail) with
    | none =>
        -- From behind the bracket the slash is passed in a step of its own.
        have front : s.pastBracket.ahead ≠ [] := by
          rw [behind]
          exact List.cons_ne_nil _ _
        have alone : s.pastBracket.lexer.stride options = Stride.plain 1 :=
          (stride_eq rfl behind).trans (Stride.read_slash opened _ _)
        exact iff_of_true (.single (steps_plain front alone)) rfl
    | some comment =>
        exact iff_of_false (not_reaches_inside_opener bracket opened further)
          (Option.some_ne_none _)
  · have ordinary : Mode.commentOpened? options .code rest = none := by
      cases opened : Mode.commentOpened? options .code rest with
      | none => rfl
      | some comment =>
          obtain ⟨_, _, _, ⟨rfl, _⟩ | ⟨rfl, _⟩⟩ := Mode.commentOpened?_eq_some opened
          · exact absurd rfl slash
          · exact absurd rfl slash
    rw [if_neg slash] at passed ⊢
    exact ⟨s.pastBracket, steps_plain filled passed, rfl, rfl, pastBracket_offset bracket,
      iff_of_true .refl ordinary⟩

end Bracket

theorem lone_bracket_transparent_iff_slashes :
    let text : Text := "a <// see <b>\nb".toUTF8.toList
    let s : Scanner := ⟨⟨(Cursor.ofText text).advance 2, .code⟩, Nesting.start {}⟩
    s.mode = .code ∧ s.ahead = Byte.lessThan :: text.drop 3 ∧ (s.lexer.step {}).2 = none ∧
      ∃ t, Steps {} s t ∧ t.mode = .code ∧ t.nesting = s.nesting ∧ t.offset = s.offset + 2 ∧
        ¬ Reaches {} s.pastBracket t := by
  intro text s
  have bracket : s.ahead = Byte.lessThan :: text.drop 3 := by decide +kernel
  have lone : (s.lexer.step {}).2 = none := by decide +kernel
  have slash : (text.drop 3).head? = some Byte.slash := by decide +kernel
  have opens : Mode.commentOpened? {} .code (text.drop 3) ≠ none := by decide +kernel
  obtain ⟨t, steps, inCode, same, further, transparent⟩ :=
    lone_bracket_transparent_iff rfl bracket lone
  rw [if_pos slash] at further
  exact ⟨rfl, bracket, lone, t, steps, inCode, same, further, mt transparent.mp opens⟩

/-- Such brackets are not all passed alone, as the comment shows that is not seen here. -/
theorem lone_bracket_hides_comment :
    ¬ ∀ (options : ScanOptions) (text : Text) (s t : Scanner), Visits options text s →
      s.mode = .code → s.ahead.head? = some Byte.lessThan → (s.lexer.step options).2 = none →
      Steps options s t → t.offset = s.offset + 1 := by
  intro alone
  let text : Text := "a <// see <b>\nb".toUTF8.toList
  let s : Scanner := ⟨⟨(Cursor.ofText text).advance 2, .code⟩, Nesting.start {}⟩
  let t : Scanner := ⟨⟨(Cursor.ofText text).advance 4, .code⟩, Nesting.start {}⟩
  have visits : Visits {} text s := by
    rw [Visits]
    decide +kernel
  have bracket : s.ahead.head? = some Byte.lessThan := by decide +kernel
  have lone : (s.lexer.step {}).2 = none := by decide +kernel
  have steps : Steps {} s t := ⟨by decide +kernel, by decide +kernel⟩
  have further := alone {} text s t visits rfl bracket lone steps
  exact absurd further (by decide +kernel)

end Scanner

end TagCheck
