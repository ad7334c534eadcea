/-
# The limit on nesting

The limit and the policy at the limit are known to the stack alone: the lexer finds the
same lexemes whatever they are (`Lexer.lexemes_relimited`). The stack asks for them only
where it is full. Under the failing policy that ends the run, so a run that ends
otherwise never asked, and any limit as high with either policy would have done as well
(`Nesting.settle_relimited`).

Under the truncating policy no tag is ever too deep, and the stack stays within its limit
all the same, because a tag that would go beyond is not recorded (`TagStack.Bounded`).
-/

import TagCheck.Proofs.OnePass

namespace TagCheck

/-- The same options with another limit on nesting and another policy at the limit. -/
def ScanOptions.relimited (options : ScanOptions) (maxDepth : Nat) (overflow : OverflowPolicy) :
    ScanOptions :=
  { options with maxDepth := maxDepth, overflow := overflow }

/-! ## Lexemes -/

namespace Lexer

variable (options : ScanOptions) (maxDepth : Nat) (overflow : OverflowPolicy)

theorem step_relimited (l : Lexer) :
    l.step (options.relimited maxDepth overflow) = l.step options := rfl

theorem lexemesAhead_relimited (l : Lexer) :
    l.lexemesAhead (options.relimited maxDepth overflow) = l.lexemesAhead options := by
  induction l using steps_induction options with
  | ended l atEnd => rw [lexemesAhead_of_end _ atEnd, lexemesAhead_of_end _ atEnd]
  | stepped l ahead ih =>
      rw [lexemesAhead_of_ahead _ ahead, lexemesAhead_of_ahead _ ahead, step_relimited, ih]

/-- The limit on nesting has no part in what is found in a text. -/
theorem lexemes_relimited (text : Text) :
    lexemes (options.relimited maxDepth overflow) text = lexemes options text :=
  lexemesAhead_relimited options maxDepth overflow (ofText text)

end Lexer

/-! ## Never beyond the limit -/

/-- A stack under the limit and the policy of these options. -/
structure TagStack.Bounded (options : ScanOptions) (s : TagStack) : Prop where
  limit : s.limit = options.maxDepth
  policy : s.policy = options.overflow
  within : s.entries.length ≤ options.maxDepth

theorem TagStack.Bounded.start (options : ScanOptions) : Bounded options (ofOptions options) :=
  ⟨rfl, rfl, Nat.zero_le _⟩

namespace Nesting

variable {options : ScanOptions} {n m : Nesting} {lexeme : Lexeme}

theorem bounded_of_meet (bounded : n.stack.Bounded options) (met : n.meet lexeme = .ok m) :
    m.stack.Bounded options := by
  cases meets_of_meet met with
  | typeBrackets site rule => exact bounded
  | single alone => exact bounded
  | dropped opens full truncates => exact bounded
  | recorded opens room entries limit policy =>
      refine ⟨limit.trans bounded.limit, policy.trans bounded.policy, ?_⟩
      rw [entries, List.length_cons, ← bounded.limit]
      exact room
  | closed closes filled named limit policy =>
      have within := bounded.within
      rw [filled, List.length_cons] at within
      exact ⟨limit.trans bounded.limit, policy.trans bounded.policy, Nat.le_of_succ_le within⟩

/-- The truncating policy refuses no tag for its depth. -/
theorem kind_ne_of_meet (truncates : n.stack.policy = .truncate) {t : Tag} {d : Defect}
    (failed : n.meet (.tag t) = .error d) : d.kind ≠ .stackOverflow := by
  rcases meet_eq_error failed with
    ⟨_, ⟨_, unmatched⟩ | ⟨_, _, _, crossed⟩⟩ | ⟨_, fails, _⟩
  · rw [unmatched]
    exact DefectKind.noConfusion
  · rw [crossed]
    exact DefectKind.noConfusion
  · rw [truncates] at fails
    cases fails

end Nesting

namespace Scanner

variable {options : ScanOptions} {text : Text} {s t : Scanner}

theorem Steps.bounded (steps : Steps options s t) (bounded : s.nesting.stack.Bounded options) :
    t.nesting.stack.Bounded options := by
  rcases steps.nesting_cases with same | ⟨lexeme, met⟩
  · rw [same]
    exact bounded
  · exact Nesting.bounded_of_meet bounded met

/-- At no place of a run is more open than is allowed. -/
theorem Visits.bounded (visits : Visits options text s) : s.nesting.stack.Bounded options := by
  induction visits with
  | refl => exact .start options
  | tail _ steps ih => exact steps.bounded ih

end Scanner

open Scanner in
theorem scan_kind_ne_of_truncates {options : ScanOptions} (truncates : options.overflow = .truncate)
    {text : Text} {defect : Defect} (found : (scan options text).defect = some defect) :
    defect.kind ≠ .stackOverflow := by
  rcases scan_defect_cases found with ⟨s, _, left⟩ | ⟨t, s, visits, _, stepped⟩
  · rw [TagStack.finish_eq, Option.map_eq_some_iff] at left
    obtain ⟨innermost, _, rfl⟩ := left
    exact DefectKind.noConfusion
  · obtain ⟨_, _, _, _, failed⟩ := tag_of_step stepped
    have policy := (Visits.bounded visits).policy
    exact Nesting.kind_ne_of_meet (policy.trans truncates) failed

/-! ## Below the limit -/

/-- The same stack under another limit and policy. -/
def TagStack.relimited (s : TagStack) (limit : Nat) (policy : OverflowPolicy) : TagStack :=
  { s with limit := limit, policy := policy }

/-- The same nesting under another limit and policy. -/
def Nesting.relimited (n : Nesting) (limit : Nat) (policy : OverflowPolicy) : Nesting :=
  { n with stack := n.stack.relimited limit policy }

namespace TagStack

variable {s : TagStack} {limit : Nat} {policy : OverflowPolicy}

/-- Where there is room, there is room under a limit as high. -/
theorem not_isFull_relimited (room : ¬ s.isFull = true) (wider : s.limit ≤ limit) :
    ¬ (s.relimited limit policy).isFull = true := by
  rw [isFull_iff, Nat.not_le] at room ⊢
  exact Nat.lt_of_lt_of_le room wider

theorem push_relimited (room : ¬ s.isFull = true) (wider : s.limit ≤ limit) (name : String)
    (site : Position) :
    (s.relimited limit policy).push name site =
      (s.push name site).map (·.relimited limit policy) := by
  rw [push, push, if_neg room, if_neg (not_isFull_relimited room wider)]
  rfl

theorem pop_relimited (s : TagStack) (limit : Nat) (policy : OverflowPolicy) (name : String)
    (site : Position) (span : Span) :
    (s.relimited limit policy).pop name site span =
      (s.pop name site span).map fun popped => (popped.1, popped.2.relimited limit policy) := by
  obtain ⟨entries, ownLimit, ownPolicy, depth, depth_eq⟩ := s
  cases entries with
  | nil => rfl
  | cons innermost outer =>
      by_cases same : innermost.name = name
      · simp only [relimited, pop, if_pos same]
        rfl
      · simp only [relimited, pop, if_neg same]
        rfl

end TagStack

namespace Nesting

variable {n : Nesting} {limit : Nat} {policy : OverflowPolicy}

theorem relimited_stack : (n.relimited limit policy).stack = n.stack.relimited limit policy := rfl

theorem openTag_relimited (fails : n.stack.policy = .fail) (wider : n.stack.limit ≤ limit)
    {t : Tag} (fits : ∀ d, n.openTag t = .error d → d.kind ≠ .stackOverflow) :
    (n.relimited limit policy).openTag t = (n.openTag t).map (·.relimited limit policy) := by
  have room : ¬ n.stack.isFull = true := by
    intro full
    have refused := TagStack.push_of_full t.name t.site (TagStack.isFull_iff.mp full)
    rw [fails] at refused
    have tooDeep : n.openTag t = .error (.tooDeep n.stack.limit t.site) := by
      rw [openTag, refused]
    exact fits _ tooDeep rfl
  have room' : ¬ (n.relimited limit policy).stack.isFull = true :=
    TagStack.not_isFull_relimited room wider
  simp only [openTag, if_neg room, if_neg room']
  rw [relimited_stack, TagStack.push_relimited room wider]
  cases n.stack.push t.name t.site <;> rfl

theorem closeTag_relimited (n : Nesting) (limit : Nat) (policy : OverflowPolicy) (t : Tag) :
    (n.relimited limit policy).closeTag t = (n.closeTag t).map (·.relimited limit policy) := by
  simp only [closeTag, relimited_stack, TagStack.pop_relimited]
  cases n.stack.pop t.name t.site t.span with
  | error defect => rfl
  | ok popped =>
      simp only [Except.map]
      split <;> rfl

/-- What the failing policy lets pass, or refuses for another reason than depth, goes the
same way under any limit as high. -/
theorem meet_relimited (fails : n.stack.policy = .fail) (wider : n.stack.limit ≤ limit)
    {lexeme : Lexeme} (fits : ∀ d, n.meet lexeme = .error d → d.kind ≠ .stackOverflow) :
    (n.relimited limit policy).meet lexeme = (n.meet lexeme).map (·.relimited limit policy) := by
  cases lexeme with
  | typeBrackets site rule => rfl
  | tag t =>
      cases form : t.form with
      | single =>
          simp only [meet, form]
          rfl
      | opening =>
          simp only [meet, form] at fits ⊢
          exact openTag_relimited fails wider fits
      | closing =>
          simp only [meet, form]
          exact closeTag_relimited n limit policy t

/-- A run under the failing policy that does not end for depth is the same under any limit
as high, whatever the policy there. -/
theorem settle_relimited {options : ScanOptions} (fails : options.overflow = .fail)
    (wider : options.maxDepth ≤ limit) (bounded : n.stack.Bounded options)
    {lexemes : List Lexeme}
    (fits : ∀ d, (n.settle lexemes).defect = some d → d.kind ≠ .stackOverflow) :
    (n.relimited limit policy).settle lexemes = n.settle lexemes := by
  induction lexemes generalizing n with
  | nil => rfl
  | cons lexeme rest ih =>
      simp only [settle] at fits ⊢
      have step : (n.relimited limit policy).meet lexeme =
          (n.meet lexeme).map (·.relimited limit policy) := by
        apply meet_relimited (bounded.policy.trans fails) (bounded.limit ▸ wider)
        intro d failed
        rw [failed] at fits
        exact fits d rfl
      rw [step]
      cases met : n.meet lexeme with
      | error d => rfl
      | ok m =>
          rw [met] at fits
          exact ih (bounded_of_meet bounded met) fits

end Nesting

/-- Neither the limit on nesting nor the policy there makes any difference to a scan until
the limit is exceeded. If a scan under the failing policy does not report that it is,
every limit as high gives the same outcome, events included, under both policies. Under
the truncating policy it is never reported, and at no place of the run is more open than
the limit allows. -/
theorem scan_indifferent_to_limit (options : ScanOptions) (text : Text) :
    (options.overflow = .fail →
      (scan options text).defect.map Defect.kind ≠ some .stackOverflow →
      ∀ maxDepth overflow, options.maxDepth ≤ maxDepth →
        scan (options.relimited maxDepth overflow) text = scan options text) ∧
    (options.overflow = .truncate →
      (scan options text).defect.map Defect.kind ≠ some .stackOverflow ∧
      ∀ s, Scanner.Visits options text s →
        s.nesting.stack.entries.length ≤ options.maxDepth) := by
  refine ⟨?_, ?_⟩
  · intro fails fits maxDepth overflow wider
    have fresh : Nesting.start (options.relimited maxDepth overflow) =
        (Nesting.start options).relimited maxDepth overflow := rfl
    rw [scan, Lexer.lexemes_relimited, fresh]
    apply Nesting.settle_relimited fails wider (TagStack.Bounded.start options)
    intro d found kind
    apply fits
    rw [← kind]
    exact congrArg (Option.map Defect.kind) found
  · intro truncates
    refine ⟨?_, fun s visits => visits.bounded.within⟩
    intro overflows
    obtain ⟨d, found, kind⟩ := Option.map_eq_some_iff.mp overflows
    exact scan_kind_ne_of_truncates truncates found kind

theorem scan_indifferent_to_limit_crossed :
    let options : ScanOptions := { maxDepth := 2 }
    let narrow : ScanOptions := { maxDepth := 1, overflow := .truncate }
    let text : Text := "<a><b></a>".toUTF8.toList
    (scan options text).defect.map Defect.kind = some .tagMismatch ∧
      scan (options.relimited 2 .truncate) text = scan options text ∧
      scan (options.relimited 9 .fail) text = scan options text ∧
      (scan narrow text).defect.map Defect.kind ≠ some .stackOverflow := by
  intro options narrow text
  have crossed : (scan options text).defect.map Defect.kind = some .tagMismatch := by
    decide +kernel
  have fits : (scan options text).defect.map Defect.kind ≠ some .stackOverflow := by
    rw [crossed]
    decide
  have alike := (scan_indifferent_to_limit options text).1 rfl fits
  exact ⟨crossed, alike 2 .truncate (by decide), alike 9 .fail (by decide),
    ((scan_indifferent_to_limit narrow text).2 rfl).1⟩

end TagCheck
