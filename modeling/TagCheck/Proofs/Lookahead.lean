/-
# How far a step looks ahead

A step looks at no more than one byte beyond those it passes. So if a step ends
inside a text, with the byte `next` ahead of it, the rest of the text may be
replaced without changing the step; each part of a step is shown to have this
property, and `Stride.read_local` puts them together.

Everything is stated for a text cut as `taken ++ next :: rest`. A step that passes
no more than `taken` is the same on `taken ++ next :: other`.
-/

import TagCheck.Proofs.Lookback
import TagCheck.Proofs.OnePass
import TagCheck.Proofs.Searches

namespace TagCheck

variable {taken rest other : Text} {next : UInt8}

/-! ## Searches -/

theorem distance_local {sought : UInt8 → Bool}
    (inside : distance sought (taken ++ next :: rest) ≤ taken.length) :
    distance sought (taken ++ next :: other) = distance sought (taken ++ next :: rest) := by
  rw [List.append_cons] at inside ⊢
  rw [List.append_cons taken next rest]
  exact distance_append (by rw [List.length_append]; exact Nat.lt_succ_of_le inside)

/-- Whether there is a name is seen from its first byte. -/
theorem bytes_eq_nil_local {limit : Nat}
    (unnamed : TagName.bytes limit (taken ++ next :: rest) = []) :
    TagName.bytes limit (taken ++ next :: other) = [] := by
  have short : (TagName.bytes limit (taken ++ [next] ++ rest)).length <
      (taken ++ [next]).length := by
    rw [← List.append_cons, unnamed, List.length_append, List.length_singleton]
    exact Nat.succ_pos _
  have same : TagName.bytes limit (taken ++ [next] ++ other) =
      TagName.bytes limit (taken ++ [next] ++ rest) := bytes_append short
  rw [← List.append_cons, ← List.append_cons] at same
  rw [same, unnamed]

/-! ## The step -/

namespace Stride

variable {options : ScanOptions}

/-- Past bytes that are taken, the same text is ahead. -/
theorem drop_taken {count : Nat} (inside : count ≤ taken.length) (rest : Text) :
    (taken ++ next :: rest).drop count = taken.drop count ++ next :: rest :=
  List.drop_append_of_le_length inside

/-! A tag that ends inside a text ends there whatever follows. -/

theorem closingTag_append
    (named : TagName.bytes options.maxNameLength (taken ++ rest) ≠ [])
    (inside : (closingTag options (taken ++ rest)).length ≤ taken.length) (other : Text) :
    TagName.bytes options.maxNameLength (taken ++ other) =
        TagName.bytes options.maxNameLength (taken ++ rest) ∧
      closingTag options (taken ++ other) = closingTag options (taken ++ rest) := by
  generalize read : TagName.bytes options.maxNameLength (taken ++ rest) = name at named ⊢
  rw [closingTag_of_named read named] at inside ⊢
  simp only at inside
  have short : name.length < taken.length := by omega
  have same : TagName.bytes options.maxNameLength (taken ++ other) = name := by
    rw [← read] at short ⊢
    exact bytes_append short
  rw [List.drop_append_of_le_length (Nat.le_of_lt short)] at inside ⊢
  have close : distance (· == Byte.greaterThan) (taken.drop name.length ++ rest) <
      (taken.drop name.length).length := by
    rw [List.length_drop]
    omega
  refine ⟨same, ?_⟩
  rw [closingTag_of_named same named, List.drop_append_of_le_length (Nat.le_of_lt short),
    distance_append close]

theorem openingTag_append (more : rest ≠ [])
    (named : TagName.bytes options.maxNameLength (taken ++ rest) ≠ [])
    (inside : (openingTag options (taken ++ rest)).length ≤ taken.length) (other : Text) :
    TagName.bytes options.maxNameLength (taken ++ other) =
        TagName.bytes options.maxNameLength (taken ++ rest) ∧
      openingTag options (taken ++ other) = openingTag options (taken ++ rest) := by
  generalize read : TagName.bytes options.maxNameLength (taken ++ rest) = name at named ⊢
  generalize ends : attributes name.getLast? none 0 0 ((taken ++ rest).drop name.length) = tail
  rw [openingTag_of_named read named ends] at inside ⊢
  simp only at inside
  have within : name.length ≤ taken.length := Nat.le_trans (Nat.le_add_right _ _) inside
  rw [List.drop_append_of_le_length within] at ends
  have filled : 0 < tail.length := by
    obtain ⟨b, text, cut⟩ := List.exists_cons_of_ne_nil
      (List.append_ne_nil_of_right_ne_nil (taken.drop name.length) more)
    rw [← ends, cut]
    exact passed_lt_attributes_length ..
  have short : name.length < taken.length := by omega
  have same : TagName.bytes options.maxNameLength (taken ++ other) = name := by
    rw [← read] at short ⊢
    exact bytes_append short
  have close : (attributes name.getLast? none 0 0 (taken.drop name.length ++ rest)).length ≤
      0 + (taken.drop name.length).length := by
    rw [ends, List.length_drop]
    omega
  refine ⟨same, openingTag_of_named same named ?_⟩
  rw [List.drop_append_of_le_length within, attributes_append more close, ends]

theorem closingTag_local
    (inside : (closingTag options (taken ++ next :: rest)).length ≤ taken.length) :
    closingTag options (taken ++ next :: other) = closingTag options (taken ++ next :: rest) := by
  by_cases unnamed : TagName.bytes options.maxNameLength (taken ++ next :: rest) = []
  · rw [closingTag_of_unnamed unnamed, closingTag_of_unnamed (bytes_eq_nil_local unnamed)]
  · exact (closingTag_append unnamed inside _).2

theorem openingTag_local
    (inside : (openingTag options (taken ++ next :: rest)).length ≤ taken.length) :
    openingTag options (taken ++ next :: other) = openingTag options (taken ++ next :: rest) := by
  by_cases unnamed : TagName.bytes options.maxNameLength (taken ++ next :: rest) = []
  · rw [openingTag_of_unnamed unnamed, openingTag_of_unnamed (bytes_eq_nil_local unnamed)]
  · exact (openingTag_append (List.cons_ne_nil _ _) unnamed inside _).2

theorem tagBody_local {rule : Option Rule} {closing : Bool}
    (inside : (tagBody options rule closing (taken ++ next :: rest)).length ≤ taken.length) :
    tagBody options rule closing (taken ++ next :: other) =
      tagBody options rule closing (taken ++ next :: rest) := by
  obtain ⟨first, tail, other', cut, cut'⟩ : ∃ first tail other',
      taken ++ next :: rest = first :: tail ∧ taken ++ next :: other = first :: other' := by
    cases taken <;> exact ⟨_, _, _, rfl, rfl⟩
  simp only [tagBody, cut, cut'] at inside ⊢
  rw [← cut] at inside
  rw [← cut, ← cut']
  by_cases fragment : first = Byte.greaterThan
  · rw [if_pos fragment, if_pos fragment]
  · simp only [if_neg fragment] at inside ⊢
    by_cases unnamed : (!TagName.isStart first) = true
    · rw [if_pos unnamed, if_pos unnamed]
    · simp only [if_neg unnamed] at inside ⊢
      by_cases closes : closing = true
      · rw [if_pos closes] at inside
        rw [if_pos closes, if_pos closes]
        exact closingTag_local inside
      · rw [if_neg closes] at inside
        rw [if_neg closes, if_neg closes]
        cases rule with
        | none => exact openingTag_local inside
        | some rule =>
            simp only at inside ⊢
            rw [typeArgumentsLength_append (List.cons_ne_nil _ _) (by rwa [Nat.zero_add])]

theorem angleBracket_local {rule : Option Rule}
    (inside : (angleBracket options rule (taken ++ next :: rest)).length ≤ taken.length) :
    angleBracket options rule (taken ++ next :: other) =
      angleBracket options rule (taken ++ next :: rest) := by
  cases taken with
  | nil =>
      simp only [angleBracket, List.nil_append] at inside ⊢
      by_cases operator : followsOperator next = true
      · rw [if_pos operator, if_pos operator]
      · simp only [if_neg operator] at inside ⊢
        by_cases closes : next = Byte.slash
        · simp [closes, behind] at inside
        · rw [if_neg closes] at inside
          rw [if_neg closes, if_neg closes]
          change tagBody options rule false ([] ++ next :: other) =
            tagBody options rule false ([] ++ next :: rest)
          exact tagBody_local inside
  | cons b taken =>
      simp only [angleBracket, List.cons_append] at inside ⊢
      by_cases operator : followsOperator b = true
      · rw [if_pos operator, if_pos operator]
      · simp only [if_neg operator] at inside ⊢
        by_cases closes : b = Byte.slash
        · rw [if_pos closes, behind, List.length_cons] at inside
          have body : tagBody options rule true (taken ++ next :: other) =
              tagBody options rule true (taken ++ next :: rest) := by
            apply tagBody_local
            simp only at inside
            omega
          rw [if_pos closes, if_pos closes, body]
        · rw [if_neg closes] at inside
          rw [if_neg closes, if_neg closes]
          change tagBody options rule false (b :: taken ++ next :: other) =
            tagBody options rule false (b :: taken ++ next :: rest)
          exact tagBody_local inside

theorem commentOpened?_local {mode : Mode} (filled : taken ≠ []) :
    mode.commentOpened? options (taken ++ next :: other) =
      mode.commentOpened? options (taken ++ next :: rest) := by
  cases taken with
  | nil => exact absurd rfl filled
  | cons b taken => cases taken <;> rfl

/-- A step that ends inside the text does not depend on the text from the second
byte after it on. -/
theorem read_local {mode : Mode} {previous : Option UInt8} {rule : Option Rule}
    (filled : taken ≠ [])
    (inside : (read options mode previous rule (taken ++ next :: rest)).length ≤ taken.length) :
    read options mode previous rule (taken ++ next :: other) =
      read options mode previous rule (taken ++ next :: rest) := by
  have opener : mode.commentOpened? options (taken ++ next :: other) =
      mode.commentOpened? options (taken ++ next :: rest) :=
    commentOpened?_local filled
  obtain ⟨b, taken, rfl⟩ := List.exists_cons_of_ne_nil filled
  have sameHead : (taken ++ next :: other).head? = (taken ++ next :: rest).head? :=
    head?_append_cons
  simp only [List.cons_append, read, sameHead] at inside opener ⊢
  rw [opener]
  by_cases lineEnds : b = Byte.lineFeed
  · rw [if_pos lineEnds, if_pos lineEnds]
  · simp only [if_neg lineEnds] at inside ⊢
    cases opened : mode.commentOpened? options (b :: (taken ++ next :: rest)) with
    | some comment => rfl
    | none =>
        rw [opened] at inside
        cases mode with
        | quoted quote => rfl
        | template depth => rfl
        | lineComment host =>
            simp only at inside ⊢
            have lineEnd : distance (· == Byte.lineFeed) (b :: taken ++ next :: other) =
                distance (· == Byte.lineFeed) (b :: taken ++ next :: rest) :=
              distance_local inside
            simp only [List.cons_append] at lineEnd
            rw [lineEnd]
        | blockComment host =>
            simp only at inside ⊢
            split
            · rfl
            · rename_i goesOn
              rw [if_neg goesOn] at inside
              simp only [List.length_cons, Nat.add_le_add_iff_right] at inside
              rw [distance_local inside]
        | code =>
            simp only at inside ⊢
            by_cases bracket : b = Byte.lessThan
            · rw [if_pos bracket, behind, List.length_cons] at inside
              have bracketed : angleBracket options rule (taken ++ next :: other) =
                  angleBracket options rule (taken ++ next :: rest) := by
                apply angleBracket_local
                simp only at inside
                omega
              rw [if_pos bracket, if_pos bracket, bracketed]
            · rw [if_neg bracket, if_neg bracket]

end Stride

/-! ## The run -/

/-- The lexer at the same place of a text that goes on differently. -/
def Lexer.withAhead (l : Lexer) (ahead : Text) : Lexer :=
  ⟨⟨l.cursor.before, ahead, l.cursor.position⟩, l.mode⟩

theorem Lexer.step_local {options : ScanOptions} {l : Lexer} (filled : taken ≠ [])
    (cut : l.cursor.after = taken ++ next :: rest)
    (inside : (l.stride options).length ≤ taken.length) :
    (l.withAhead (taken ++ next :: other)).step options =
      ((l.step options).1.withAhead (taken.drop (l.stride options).length ++ next :: other),
        (l.step options).2) := by
  have same : (l.withAhead (taken ++ next :: other)).stride options = l.stride options := by
    rw [stride, cut] at inside
    rw [stride, stride, cut]
    exact Stride.read_local filled inside
  rw [step_eq_stride, step_eq_stride, same]
  simp only [Stride.land, Cursor.advance_eq, withAhead, cut, Stride.drop_taken inside,
    List.take_append_of_le_length inside]

namespace Scanner

variable {options : ScanOptions}

/-- The scanner at the same place of a text that goes on differently. -/
def withAhead (s : Scanner) (ahead : Text) : Scanner := ⟨s.lexer.withAhead ahead, s.nesting⟩

/-- A step that ends inside a text is made in the same way if the text goes on
differently from the second byte after it on. -/
theorem Steps.withAhead {s t : Scanner} {left : Text} (steps : Steps options s t)
    (cut : s.ahead = taken ++ next :: rest) (cut' : t.ahead = left ++ next :: rest) :
    Steps options (s.withAhead (taken ++ next :: other))
      (t.withAhead (left ++ next :: other)) := by
  have passed : (taken ++ next :: rest).drop (s.lexer.stride options).length =
      left ++ next :: rest := by
    rw [← cut, ← cut', ahead, ahead, steps.cursor, Cursor.advance_after]
  have shorter := steps.ahead_length
  rw [cut, cut', List.length_append, List.length_append, Nat.add_lt_add_iff_right] at shorter
  have filled : taken ≠ [] := List.ne_nil_of_length_pos (Nat.zero_lt_of_lt shorter)
  have inside : (s.lexer.stride options).length ≤ taken.length := by
    have lengths := congrArg List.length passed
    simp only [List.length_drop, List.length_append, List.length_cons] at lengths
    omega
  have taken' : taken.drop (s.lexer.stride options).length = left := by
    rw [Stride.drop_taken inside] at passed
    exact List.append_cancel_right passed
  have moved : (s.lexer.withAhead (taken ++ next :: other)).step options =
      (t.lexer.withAhead (left ++ next :: other), (s.lexer.step options).2) := by
    rw [Lexer.step_local filled cut inside, taken', steps.lexer]
  obtain ⟨_, _, met⟩ := steps_iff.mp steps
  refine steps_iff.mpr ⟨List.append_ne_nil_of_left_ne_nil filled _, ?_, ?_⟩
  · exact (congrArg Prod.fst moved).symm
  · change s.nesting.meetFound ((s.lexer.withAhead _).step options).2 = (t.nesting, none)
    rw [moved]
    exact met

/-- A run up to a place does not depend on the text from the second byte after that
place on. -/
theorem Reaches.withAhead {s t : Scanner} (reaches : Reaches options s t)
    (cut : s.ahead = taken ++ next :: rest) (cut' : t.ahead = next :: rest) :
    Reaches options (s.withAhead (taken ++ next :: other)) (t.withAhead (next :: other)) := by
  induction reaches using Relation.ReflTransGen.head_induction_on generalizing taken with
  | refl =>
      rw [cut'] at cut
      have nothing : taken = [] := List.self_eq_append_left.mp cut
      rw [nothing]
      exact .refl
  | @head s u steps rest' ih =>
      obtain ⟨between, cutMiddle, _⟩ := Reaches.passed rest'
      rw [cut'] at cutMiddle
      exact .head (steps.withAhead cut cutMiddle) (ih cutMiddle)

/-- How a scanner comes to a place depends on the text up to the byte there. -/
theorem Visits.withAhead {s : Scanner} (visits : Visits options (taken ++ next :: rest) s)
    (place : s.offset = taken.length) :
    Visits options (taken ++ next :: other) (s.withAhead (next :: other)) := by
  have left : s.ahead = next :: rest := by
    rw [visits.cut.2.1, place, List.drop_left]
  exact Reaches.withAhead visits rfl left

/-- Runs over texts that agree up to the byte at a place come there alike. -/
theorem Visits.eq_withAhead {s t : Scanner} (visits : Visits options (taken ++ next :: rest) s)
    (visits' : Visits options (taken ++ next :: other) t) (place : s.offset = taken.length)
    (place' : t.offset = taken.length) : t = s.withAhead (next :: other) :=
  Reaches.eq_of_offset visits' (visits.withAhead place) (place'.trans place.symm)

end Scanner

end TagCheck
