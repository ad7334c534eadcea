/-
# Regions that hide their contents

A string, a template literal and a block comment are regions: once the lexer is
inside, it finds nothing until the byte that ends the region takes it back to code
(`Reaches.closes`). That byte is a quote or a slash, behind which the classifier
sees nothing (`classify_behind`). So what a region contains takes part neither in
the tags that are found nor in the classification of a bracket further on, and two
texts that differ inside one region only have like outcomes
(`scan_ignores_region`).
-/

import TagCheck.Proofs.Exchange

namespace TagCheck

/-- The byte at which a mode goes back to code. A comment inside a template literal
goes back to the literal, which has its own end. -/
def Mode.closer : Mode → Option UInt8
  | code => none
  | template _ => some Byte.backquote
  | quoted quote => some quote
  | lineComment .code => some Byte.lineFeed
  | blockComment .code => some Byte.slash
  | lineComment (.template _) | blockComment (.template _) => some Byte.backquote

/-- The regions that code can contain, each with the bytes that open it and the byte
that ends it. -/
def regionDelimiters : List (Text × UInt8) :=
  [([Byte.doubleQuote], Byte.doubleQuote), ([Byte.singleQuote], Byte.singleQuote),
    ([Byte.backquote], Byte.backquote), ([Byte.slash, Byte.asterisk], Byte.slash)]

/-- The openers of strings, template literals and block comments. -/
def regionOpeners : List Text := regionDelimiters.map Prod.fst

theorem opener_ne_nil {opener : Text} {closer : UInt8}
    (delimits : (opener, closer) ∈ regionDelimiters) : opener ≠ [] := by
  have all : ∀ pair ∈ regionDelimiters, pair.1 ≠ [] := by decide
  exact all _ delimits

/-! ## One step -/

section Closers

variable {mode : Mode} {closer : UInt8}

theorem Mode.afterLine_closes (inside : mode.closer = some closer) :
    mode.afterLine.closer = some closer ∨
      mode.afterLine = .code ∧ Byte.lineFeed = closer := by
  cases mode with
  | lineComment host =>
      cases host with
      | code => exact .inr ⟨rfl, Option.some.inj inside⟩
      | template depth => exact .inl inside
  | code | template | quoted | blockComment => exact .inl inside

/-- A comment that opens inside a region belongs to it. -/
theorem Mode.commentOpened?_closer {options : ScanOptions} {comment : Mode} {ahead : Text}
    (inside : mode.closer = some closer)
    (opened : mode.commentOpened? options ahead = some comment) :
    comment.closer = some closer := by
  obtain ⟨host, rest, hosted, comments⟩ := Mode.commentOpened?_eq_some opened
  cases mode with
  | code => cases inside
  | quoted | lineComment | blockComment => cases hosted
  | template depth =>
      have host : host = .template depth := by
        rw [commentHost?] at hosted
        by_cases suppressed : (depth = 0 && !options.commentsInTemplateText) = true
        · rw [if_pos suppressed] at hosted
          cases hosted
        · rw [if_neg suppressed] at hosted
          exact (Option.some.inj hosted).symm
      rcases comments with ⟨_, rfl⟩ | ⟨_, rfl⟩
      · rw [host]
        exact inside
      · rw [host]
        exact inside

theorem Lexer.quotedNext_closes (quote : UInt8) (previous : Option UInt8) (b : UInt8) :
    (quotedNext quote previous b).closer = some quote ∨
      quotedNext quote previous b = .code ∧ b = quote := by
  by_cases closes : (b = quote && previous != some Byte.backslash) = true
  · rw [quotedNext, if_pos closes]
    rw [Bool.and_eq_true, decide_eq_true_iff] at closes
    exact .inr ⟨rfl, closes.1⟩
  · rw [quotedNext, if_neg closes]
    exact .inl rfl

theorem Lexer.templateNext_closes (depth : Nat) (b : UInt8) :
    (templateNext depth b).closer = some Byte.backquote ∨
      templateNext depth b = .code ∧ b = Byte.backquote := by
  by_cases closes : (b = Byte.backquote && depth = 0) = true
  · rw [templateNext, if_pos closes]
    rw [Bool.and_eq_true, decide_eq_true_iff] at closes
    exact .inr ⟨rfl, closes.1⟩
  · rw [templateNext, if_neg closes]
    left
    split
    · rfl
    · split <;> rfl

end Closers

namespace Stride

variable (options : ScanOptions) {closer : UInt8}

/-- An opener leads into a region with its closer. -/
theorem read_opener {opener : Text} (delimits : (opener, closer) ∈ regionDelimiters)
    (previous : Option UInt8) (rule : Option Rule) (rest : Text) :
    let s := read options .code previous rule (opener ++ rest)
    s.found = none ∧ s.mode.closer = some closer := by
  simp only [regionDelimiters, List.mem_cons, Prod.mk.injEq, List.not_mem_nil, or_false]
    at delimits
  rcases delimits with ⟨rfl, rfl⟩ | ⟨rfl, rfl⟩ | ⟨rfl, rfl⟩ | ⟨rfl, rfl⟩
  · cases rest <;> exact ⟨rfl, rfl⟩
  · cases rest <;> exact ⟨rfl, rfl⟩
  · cases rest <;> exact ⟨rfl, rfl⟩
  · exact ⟨rfl, rfl⟩

/-- Inside a region nothing is found, and the way back to code is past the closer. -/
theorem read_inside {mode : Mode} (inside : mode.closer = some closer)
    (previous : Option UInt8) (rule : Option Rule) (ahead : Text) :
    let s := read options mode previous rule ahead
    s.found = none ∧ (s.mode.closer = some closer ∨
      s.mode = .code ∧ (ahead.take s.length).getLast? = some closer) := by
  cases ahead with
  | nil => exact ⟨rfl, .inl inside⟩
  | cons b rest =>
      simp only [read]
      by_cases lineEnds : b = Byte.lineFeed
      · rw [if_pos lineEnds]
        refine ⟨rfl, (Mode.afterLine_closes inside).imp_right ?_⟩
        rintro ⟨back, closes⟩
        exact ⟨back, congrArg some (lineEnds.trans closes)⟩
      · rw [if_neg lineEnds]
        cases opened : mode.commentOpened? options (b :: rest) with
        | some comment => exact ⟨rfl, .inl (Mode.commentOpened?_closer inside opened)⟩
        | none =>
            cases mode with
            | code => cases inside
            | lineComment host => exact ⟨rfl, .inl inside⟩
            | quoted quote =>
                cases inside
                refine ⟨rfl, (Lexer.quotedNext_closes closer previous b).imp_right ?_⟩
                rintro ⟨back, closes⟩
                exact ⟨back, congrArg some closes⟩
            | template depth =>
                cases inside
                simp only
                split
                · exact ⟨rfl, .inl rfl⟩
                · refine ⟨rfl, (Lexer.templateNext_closes depth b).imp_right ?_⟩
                  rintro ⟨back, closes⟩
                  exact ⟨back, congrArg some closes⟩
            | blockComment host =>
                simp only
                split
                · rename_i ends
                  obtain ⟨rfl, tail, rfl⟩ := and_head?_eq_some.mp ends
                  refine ⟨rfl, ?_⟩
                  cases host with
                  | code =>
                      cases inside
                      exact .inr ⟨rfl, rfl⟩
                  | template depth => exact .inl inside
                · exact ⟨rfl, .inl inside⟩

end Stride

/-! ## From the opener to the closer -/

/-- A run over `pre ++ region ++ post` comes to the region in code, and is in code
next where the region ends. -/
def Encloses (options : ScanOptions) (pre region post : Text) : Prop :=
  ∃ s, Scanner.Visits options (pre ++ region ++ post) s ∧
    s.offset = pre.length ∧ s.mode = .code ∧
    ∃ t, Scanner.Reaches options s t ∧ t.offset = (pre ++ region).length ∧ t.mode = .code ∧
      ∀ u, Scanner.Reaches options s u → s.offset < u.offset → u.offset < t.offset →
        u.mode ≠ .code

instance (options : ScanOptions) (pre region post : Text) :
    Decidable (Encloses options pre region post) :=
  decidable_of_iff
    (∃ s ∈ Scanner.places options (.start options (pre ++ region ++ post)),
      s.offset = pre.length ∧ s.mode = .code ∧
      ∃ t ∈ Scanner.places options s, t.offset = (pre ++ region).length ∧ t.mode = .code ∧
        ∀ u ∈ Scanner.places options s, s.offset < u.offset → u.offset < t.offset →
          u.mode ≠ .code)
    (by simp only [Scanner.mem_places_iff]; rfl)

namespace Scanner

variable {options : ScanOptions} {closer : UInt8}

/-- A step from inside a region keeps the nesting. It stays inside, or the closer is
the last byte that it passes. -/
theorem Steps.inside {s t : Scanner} (steps : Steps options s t)
    (inside : s.mode.closer = some closer) :
    t.nesting = s.nesting ∧ (t.mode.closer = some closer ∨
      t.mode = .code ∧ t.lexer.cursor.before.head? = some closer) := by
  obtain ⟨quiet, next⟩ := Stride.read_inside options inside
    s.lexer.cursor.before.head? (classify s.lexer.cursor.before) s.ahead
  cases steps_rightUnique steps (steps_of_quiet steps.1 quiet)
  refine ⟨rfl, next.imp_right ?_⟩
  rintro ⟨back, closes⟩
  refine ⟨back, ?_⟩
  rw [Cursor.advance_eq, List.head?_append, List.head?_reverse]
  change (s.ahead.take (s.lexer.stride options).length).getLast?.or _ = some closer
  rw [show (s.ahead.take (s.lexer.stride options).length).getLast? = some closer from closes]
  rfl

/-- Between an opener and the first place after it that is in code, the nesting stays
as it is, and the closer is passed last. -/
theorem Reaches.closes {s t : Scanner} (reaches : Reaches options s t)
    (inside : s.mode.closer = some closer) (back : t.mode = .code)
    (first : ∀ u, Reaches options s u → u.offset < t.offset → u.mode ≠ .code) :
    t.nesting = s.nesting ∧ t.lexer.cursor.before.head? = some closer := by
  induction reaches using Relation.ReflTransGen.head_induction_on with
  | refl =>
      rw [back] at inside
      cases inside
  | @head s u steps onward ih =>
      obtain ⟨same, next⟩ := steps.inside inside
      rw [← same]
      rcases next with still | ⟨early, closed⟩
      · exact ih still fun v reached => first v (.head steps reached)
      · have notBefore : ¬ u.offset < t.offset := fun before =>
          first u (.single steps) before early
        have here : u = t := Reaches.eq_of_offset_le onward (Nat.le_of_not_lt notBefore)
        rw [← here]
        exact ⟨rfl, closed⟩

end Scanner

namespace Encloses

open Scanner

variable {options : ScanOptions} {pre region post : Text}

/-- A region is passed with nothing found, and ends with its closer. -/
theorem passes {opener : Text} {closer : UInt8} (encloses : Encloses options pre region post)
    (delimits : (opener, closer) ∈ regionDelimiters) (begins : opener <+: region) :
    ∃ s t, Passes options pre region post s t ∧ (pre ++ region).getLast? = some closer := by
  obtain ⟨s, visits, entry, inCode, t, reaches, ending, back, first⟩ := encloses
  obtain ⟨body, rfl⟩ := begins
  have ahead : s.ahead = opener ++ (body ++ post) := by
    rw [visits.cut.2.1, entry, List.append_assoc, List.drop_left, List.append_assoc]
  have filled : opener ≠ [] := opener_ne_nil delimits
  obtain ⟨quiet, inside⟩ := Stride.read_opener options delimits
    s.lexer.cursor.before.head? (classify s.lexer.cursor.before) (body ++ post)
  rw [← ahead, ← inCode] at quiet inside
  have opens := steps_of_quiet (ahead ▸ List.append_ne_nil_of_left_ne_nil filled _) quiet
  have before : s.offset < t.offset := by
    have opened : 0 < opener.length := List.length_pos_iff.mpr filled
    rw [entry, ending, List.length_append, List.length_append]
    omega
  rcases reaches.cases_head with rfl | ⟨u, steps, onward⟩
  · exact absurd before (Nat.lt_irrefl _)
  · cases steps_rightUnique steps opens
    obtain ⟨same, closed⟩ := Reaches.closes onward inside back fun v reached early =>
      first v (.head steps reached)
        (Nat.lt_of_lt_of_le steps.offset_lt (Reaches.offset_le reached)) early
    have passes : Passes options pre (opener ++ body) post s t :=
      ⟨visits, entry, reaches, ending, back, same⟩
    refine ⟨s, t, passes, ?_⟩
    rw [← List.head?_reverse, ← passes.before]
    exact closed

end Encloses

/-- Behind a closer the classifier sees no further. -/
theorem classify_closed {opener region region' : Text} {closer : UInt8}
    (delimits : (opener, closer) ∈ regionDelimiters) (ends : region.getLast? = some closer)
    (ends' : region'.getLast? = some closer) (near : List UInt8) :
    classify (near ++ region.reverse) = classify (near ++ region'.reverse) := by
  have solid : ∀ pair ∈ regionDelimiters, Byte.isWhitespace pair.2 = false ∧
      Byte.isWord pair.2 = false ∧ pair.2 ≠ Byte.ampersand := by decide
  obtain ⟨notWhite, endsWord, single⟩ := solid _ delimits
  obtain ⟨far, rfl⟩ := List.getLast?_eq_some_iff.mp ends
  obtain ⟨far', rfl⟩ := List.getLast?_eq_some_iff.mp ends'
  rw [List.reverse_append, List.reverse_append]
  exact classify_behind notWhite endsWord single near far.reverse far'.reverse

/-- The contents of a string, a template literal or a block comment have no influence
on what a scan reports: exchanged for others, they leave the number of elements and
the defect as they are, but for the offsets behind the region, which move with its
end. The classifier does not see into the region from anywhere behind it. -/
theorem scan_ignores_region (options : ScanOptions) {opener pre region region' post : Text}
    (opens : opener ∈ regionOpeners) (begins : opener <+: region) (begins' : opener <+: region')
    (encloses : Encloses options pre region post)
    (encloses' : Encloses options pre region' post) :
    (scan options (pre ++ region ++ post)).Alike (Resited pre region region')
        (scan options (pre ++ region' ++ post)) ∧
      ∀ ahead, classify (pre ++ region ++ ahead).reverse =
        classify (pre ++ region' ++ ahead).reverse := by
  obtain ⟨⟨_, closer⟩, delimits, rfl⟩ := List.mem_map.mp opens
  obtain ⟨s, t, passes, ends⟩ := encloses.passes delimits begins
  obtain ⟨s', t', passes', ends'⟩ := encloses'.passes delimits begins'
  have hidden := classify_closed delimits ends ends'
  refine ⟨?_, ?_⟩
  · have same : s'.nesting = s.nesting := by
      obtain ⟨body, rfl⟩ := begins
      obtain ⟨body', rfl⟩ := begins'
      obtain ⟨next, tail, opener⟩ := List.exists_cons_of_ne_nil (opener_ne_nil delimits)
      simp only at opener passes passes'
      rw [opener] at passes passes'
      exact passes.nesting_eq passes'
    apply passes.scan_alike passes' same (ends.trans ends'.symm)
    intro near first rest _ _
    rw [hidden]
  · intro ahead
    have cut (region : Text) :
        (pre ++ region ++ ahead).reverse = ahead.reverse ++ (pre ++ region).reverse :=
      List.reverse_append
    rw [cut, cut, hidden]

theorem scan_ignores_region_quoted :
    let pre : Text := "<a>".toUTF8.toList
    let region : Text := "\"<b>\"".toUTF8.toList
    let region' : Text := "\"\"".toUTF8.toList
    let post : Text := "</a></c>".toUTF8.toList
    Encloses {} pre region post ∧ Encloses {} pre region' post ∧
      (scan {} (pre ++ region ++ post)).Alike (Resited pre region region')
        (scan {} (pre ++ region' ++ post)) := by
  intro pre region region' post
  have encloses : Encloses {} pre region post := by decide +kernel
  have encloses' : Encloses {} pre region' post := by decide +kernel
  have opens : [Byte.doubleQuote] ∈ regionOpeners := by decide
  have begins : [Byte.doubleQuote] <+: region := by decide +kernel
  have begins' : [Byte.doubleQuote] <+: region' := by decide +kernel
  exact ⟨encloses, encloses', (scan_ignores_region {} opens begins begins' encloses encloses').1⟩

end TagCheck
