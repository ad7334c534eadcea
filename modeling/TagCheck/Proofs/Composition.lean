/-
# Scans one after the other

Where a run is in code with nothing open, at a byte that separates (`separators`), what
is left of the text is scanned as a text of its own. The separator leaves the lexer in
code and hides what stands before it from the classifier
(`classify_behind_silent`), so the lexer finds the same lexemes as from a fresh start,
further on in the text. The nesting has nothing open, and what it has counted is added
to what it goes on to count (`Nesting.settle_counting`).

Where a position of the second text is found in the whole is `Position.behind`: lines and
offsets move by those of the text in front, columns on the first line only.
-/

import TagCheck.Proofs.Correspondence
import TagCheck.Proofs.DepthLimit
import TagCheck.Proofs.Lookback
import TagCheck.Proofs.Positions

namespace TagCheck

/-- Parentheses, braces and the closing bracket: in code they begin nothing, and no rule
looks for them. -/
def separators : List UInt8 := [0x28, 0x29, Byte.openBrace, Byte.closeBrace, Byte.greaterThan]

/-! ## Moving a report -/

/-- Where a position of a text is found when `front` is put before the text. -/
def Position.behind (front : Text) (p : Position) : Position where
  offset := p.offset + front.length
  line := p.line + front.count Byte.lineFeed
  column :=
    if p.line = 1 then p.column + (lastLine front).countP (!Byte.isContinuation ·) else p.column

/-- Where a span of a text is found when `front` is put before the text. -/
def Span.behind (front : Text) (s : Span) : Span := ⟨s.start + front.length, s.length⟩

/-- A defect of a text, as it is reported when `front` is put before the text. -/
def Defect.behind (front : Text) : Defect → Defect
  | unmatchedClose name site span => unmatchedClose name (site.behind front) (span.behind front)
  | mismatch expected openedAt found site span =>
      mismatch expected (openedAt.behind front) found (site.behind front) (span.behind front)
  | unclosed name site others => unclosed name (site.behind front) others
  | tooDeep limit site => tooDeep limit (site.behind front)
  | unreadable path reason => unreadable path reason
  | outOfMemory path => outOfMemory path

/-- The labels of a defect move with it and say the same. -/
theorem Defect.labels_behind (front : Text) (d : Defect) :
    (d.behind front).labels =
      d.labels.map fun label => ⟨label.span.behind front, label.remark⟩ := by
  cases d <;> rfl

namespace Position

/-- The start of the second text is the end of the first. -/
theorem behind_start (front : Text) : start.behind front = start.past front := by
  rw [past_start]
  simp only [behind, start, if_true, Nat.zero_add]

/-- Passing a byte of the second text is the same in the text alone and in the whole. -/
theorem carried_behind_front (front : Text) :
    Carried fun p q => 1 ≤ p.line ∧ q = p.behind front := by
  rintro p q b ⟨counted, rfl⟩
  by_cases lineEnds : b = Byte.lineFeed
  · -- Further lines are not those of `front`, so columns begin anew on both sides.
    have later : p.line + 1 ≠ 1 := by omega
    simp only [next, if_pos lineEnds, behind, if_neg later, mk.injEq, and_true]
    omega
  · by_cases continues : Byte.isContinuation b = true
    · simp only [next, if_neg lineEnds, if_pos continues, behind, mk.injEq, and_true]
      omega
    · simp only [next, if_neg lineEnds, if_neg continues, behind, mk.injEq, true_and]
      refine ⟨counted, by omega, ?_⟩
      split <;> omega

end Position

/-- Defects that say the same of places further on. -/
theorem Defect.Alike.eq_behind {front : Text} {d e : Defect}
    (alike : d.Alike (fun p q => q = p.behind front) e) : e = d.behind front := by
  cases alike with
  | unmatchedClose name length sites => rw [sites]; rfl
  | mismatch expected found length openings sites => rw [openings, sites]; rfl
  | unclosed name others sites => rw [sites]; rfl
  | tooDeep limit sites => rw [sites]; rfl

theorem Outcome.Alike.defect_behind {front : Text} {o p : Outcome}
    (alike : o.Alike (fun p q => q = p.behind front) p) :
    p.defect = o.defect.map (Defect.behind front) := by
  generalize o.defect = d, p.defect = e, alike.defect = related
  cases related with
  | none => rfl
  | some like => exact congrArg some like.eq_behind

/-! ## What has been counted before -/

/-- A nesting that has counted so many elements more. -/
def Nesting.counting (count : Nat) (n : Nesting) : Nesting :=
  { n with tagsChecked := count + n.tagsChecked }

namespace Nesting

variable (count : Nat) (n : Nesting)

theorem openTag_counting (t : Tag) :
    (n.counting count).openTag t = (n.openTag t).map (counting count) := by
  have same : (n.counting count).stack = n.stack := rfl
  by_cases full : n.stack.isFull = true
  · simp only [openTag, same, if_pos full]
    cases n.stack.push t.name t.site <;> rfl
  · simp only [openTag, same, if_neg full]
    cases n.stack.push t.name t.site <;> rfl

theorem closeTag_counting (t : Tag) :
    (n.counting count).closeTag t = (n.closeTag t).map (counting count) := by
  simp only [closeTag, counting]
  cases n.stack.pop t.name t.site t.span with
  | error defect => rfl
  | ok popped =>
      simp only
      split <;> rfl

theorem meet_counting (lexeme : Lexeme) :
    (n.counting count).meet lexeme = (n.meet lexeme).map (counting count) := by
  cases lexeme with
  | typeBrackets site rule => rfl
  | tag t =>
      cases form : t.form with
      | single =>
          simp only [meet, form]
          rfl
      | opening =>
          simp only [meet, form]
          exact openTag_counting count n t
      | closing =>
          simp only [meet, form]
          exact closeTag_counting count n t

/-- What was counted before is added to what is counted. -/
theorem settle_counting (lexemes : List Lexeme) :
    ((n.counting count).settle lexemes).tagsChecked = count + (n.settle lexemes).tagsChecked ∧
      ((n.counting count).settle lexemes).defect = (n.settle lexemes).defect := by
  induction lexemes generalizing n with
  | nil => exact ⟨rfl, rfl⟩
  | cons lexeme rest ih =>
      simp only [settle, meet_counting]
      cases n.meet lexeme with
      | error defect => exact ⟨rfl, rfl⟩
      | ok met => exact ih met

end Nesting

/-! ## Past the separator -/

/-- Behind a separator a bracket is classified as if the text began there. -/
theorem classify_separated {x : UInt8} (separates : x ∈ separators) (near far : List UInt8) :
    classify (near ++ x :: far) = classify near := by
  have silent : ∀ x ∈ separators,
      Byte.isWhitespace x = false ∧ Byte.isWord x = false ∧ x ∉ signals := by decide +kernel
  obtain ⟨solid, endsWord, silent⟩ := silent x separates
  exact classify_behind_silent solid endsWord silent near far

theorem Stride.read_separator (options : ScanOptions) {x : UInt8} (separates : x ∈ separators)
    (previous : Option UInt8) (rule : Option Rule) (rest : Text) :
    read options .code previous rule (x :: rest) = ⟨1, .code, none⟩ := by
  simp only [separators, List.mem_cons, List.not_mem_nil, or_false] at separates
  rcases separates with rfl | rfl | rfl | rfl | rfl
  all_goals cases rest <;> rfl

namespace Scanner

variable {options : ScanOptions} {a b : Text} {x : UInt8} {s : Scanner}

/-- Behind a separator the lexer is as good as at the start of the text that is left. -/
theorem Visits.separated (visits : Visits options (a ++ x :: b) s) (place : s.offset = a.length)
    (inCode : s.mode = .code) (separates : x ∈ separators) :
    ∃ t, Visits options (a ++ x :: b) t ∧ t.nesting = s.nesting ∧
      (Lexer.ofText b).Alike (fun p q => 1 ≤ p.line ∧ q = p.behind (a ++ [x])) t.lexer := by
  have ahead : s.ahead = [x] ++ b := by
    rw [visits.cut.2.1, place, List.drop_left]
    rfl
  obtain ⟨t, steps, back, left, kept⟩ := steps_of_read options ahead (List.cons_ne_nil x [])
    fun previous rule => by
      rw [inCode]
      exact Stride.read_separator options separates previous rule b
  have onward : Visits options (a ++ x :: b) t := visits.tail steps
  have whole : (start options (a ++ x :: b)).ahead = a ++ [x] ++ b := by
    rw [List.append_assoc]
    rfl
  have before : t.lexer.cursor.before = (a ++ [x]).reverse :=
    (Reaches.before_eq onward whole left).trans (List.append_nil _)
  have position : t.lexer.cursor.position = Position.start.past (a ++ [x]) := by
    rw [onward.standsIn.placed, before, List.reverse_reverse]
  rw [List.reverse_append, List.reverse_singleton, List.singleton_append] at before
  refine ⟨t, onward, kept, back.symm, left.symm, ⟨Nat.le_refl 1, ?_⟩, ?_, ?_⟩
  · rw [position, ← Position.behind_start]
    rfl
  · have notBackslash : ∀ x ∈ separators, x ≠ Byte.backslash := by decide +kernel
    rw [before]
    exact (beq_eq_false_iff_ne.mpr fun same =>
      notBackslash x separates (Option.some.inj same)).symm
  · intro passed first rest _ _
    rw [before, classify_separated separates]
    exact congrArg (fun before => (classify before).isSome) (List.append_nil _)

end Scanner

/-- Scanning composes. Where the run over `a ++ x :: b` comes to a separator `x` in code,
with nothing open and no defect so far, it has in front of it a scan of `b`: the number of
elements is what has been counted so far and what a scan of `b` counts, and the defect is
that of `b`, with every position, span and label moved behind `a` and the separator. -/
theorem scan_behind_separator (options : ScanOptions) {a b : Text} {x : UInt8} {s : Scanner}
    (separates : x ∈ separators) (visits : Scanner.Visits options (a ++ x :: b) s)
    (place : s.offset = a.length) (inCode : s.mode = .code)
    (closed : s.nesting.stack.entries = []) :
    (scan options (a ++ x :: b)).tagsChecked =
        s.nesting.tagsChecked + (scan options b).tagsChecked ∧
      (scan options (a ++ x :: b)).defect =
        (scan options b).defect.map (Defect.behind (a ++ [x])) ∧
      (scan options (a ++ x :: b)).defect.map Defect.labels =
        (scan options b).defect.map fun d =>
          d.labels.map fun label => ⟨label.span.behind (a ++ [x]), label.remark⟩ := by
  obtain ⟨t, onward, kept, lexers⟩ := visits.separated place inCode separates
  let fresh : Nesting := { s.nesting with tagsChecked := 0 }
  have counted : t.nesting = fresh.counting s.nesting.tagsChecked := kept
  have nestings : (Nesting.start options).Alike (fun p q => q = p.behind (a ++ [x])) fresh := by
    have bounded := visits.bounded
    refine ⟨?_, bounded.limit.symm, bounded.policy.symm, rfl⟩
    change List.Forall₂ _ [] s.nesting.stack.entries
    rw [closed]
    exact .nil
  have alike := Scanner.run_alike (s := .start options b) (t := ⟨t.lexer, fresh⟩)
    (Position.carried_behind_front _) (fun _ _ => And.right) lexers nestings options
  rw [Scanner.run_start, Scanner.run_eq_settle] at alike
  have rest : scan options (a ++ x :: b) =
      (fresh.counting s.nesting.tagsChecked).settle (t.lexer.lexemesAhead options) := by
    rw [← Scanner.run_start, Scanner.Reaches.run_eq onward, Scanner.run_eq_settle, counted]
  obtain ⟨total, found⟩ := Nesting.settle_counting s.nesting.tagsChecked fresh
    (t.lexer.lexemesAhead options)
  have moved : (scan options (a ++ x :: b)).defect =
      (scan options b).defect.map (Defect.behind (a ++ [x])) := by
    rw [rest, found, alike.defect_behind]
  refine ⟨?_, moved, ?_⟩
  · rw [rest, total, alike.tagsChecked]
  · rw [moved, Option.map_map]
    congr 1
    funext d
    exact Defect.labels_behind _ d

theorem scan_behind_separator_second_line :
    let a : Text := "<a/>\n<b></b>ü".toUTF8.toList
    let b : Text := "</c>\n<d>".toUTF8.toList
    let s := (Scanner.places {} (.start {} (a ++ Byte.closeBrace :: b))).getD 6 (.start {} [])
    Byte.closeBrace ∈ separators ∧ Scanner.Visits {} (a ++ Byte.closeBrace :: b) s ∧
      s.offset = a.length ∧ s.mode = .code ∧ s.nesting.stack.entries = [] ∧
      (scan {} b).defect = some (.unmatchedClose "c" ⟨0, 1, 1⟩ ⟨0, 4⟩) ∧
      (scan {} (a ++ Byte.closeBrace :: b)).defect =
        some (.unmatchedClose "c" ⟨15, 2, 10⟩ ⟨15, 4⟩) ∧
      (scan {} (a ++ Byte.closeBrace :: b)).tagsChecked = 2 := by
  intro a b s
  have separates : Byte.closeBrace ∈ separators := by decide
  have visits : Scanner.Visits {} (a ++ Byte.closeBrace :: b) s :=
    Scanner.mem_places_iff.mp (by decide +kernel)
  have place : s.offset = a.length := by decide +kernel
  have inCode : s.mode = .code := by decide +kernel
  have closed : s.nesting.stack.entries = [] := by decide +kernel
  have unmatched : (scan {} b).defect = some (.unmatchedClose "c" ⟨0, 1, 1⟩ ⟨0, 4⟩) := by
    decide +kernel
  have counted : s.nesting.tagsChecked + (scan {} b).tagsChecked = 2 := by decide +kernel
  have moved : (Defect.unmatchedClose "c" ⟨0, 1, 1⟩ ⟨0, 4⟩).behind (a ++ [Byte.closeBrace]) =
      .unmatchedClose "c" ⟨15, 2, 10⟩ ⟨15, 4⟩ := by decide +kernel
  obtain ⟨total, found, _⟩ := scan_behind_separator {} separates visits place inCode closed
  refine ⟨separates, visits, place, inCode, closed, unmatched, ?_, total.trans counted⟩
  rw [found, unmatched, Option.map_some, moved]

end TagCheck
