/-
# What a line comment gives away

The lexer passes over a line comment, but the classifier looks back over the bytes
as they are, and a line feed is whitespace to it. A bracket on the next line, with
nothing but whitespace before it, is therefore judged by the last bytes of the
comment: after `// note:` the line `<br/>` is taken for a type. So the text of a
line comment does make a difference (`comment_text_counts`).

That is all the difference it can make. Any other byte on the next line hides the
comment (`classify_behind_line`), and the bytes before the comment are hidden by
its slashes. Two comments can be exchanged unless such a bracket follows and the
classifier tells them apart (`scan_exchanges_comment`).
-/

import TagCheck.Proofs.Exchange

namespace TagCheck

/-- A line comment, with the line feed that ends it. -/
def lineComment (body : Text) : Text :=
  Byte.slash :: Byte.slash :: (body ++ [Byte.lineFeed])

/-- Whether a bracket at the start of the line after a comment belongs to a type. -/
def claimsNextLine (body : Text) : Bool := (classify (lineComment body).reverse).isSome

/-- The scanner comes to `offset` in code. -/
def CodeAt (options : ScanOptions) (text : Text) (offset : Nat) : Prop :=
  ∃ s, Scanner.Visits options text s ∧ s.offset = offset ∧ s.mode = .code

instance (options : ScanOptions) (text : Text) (offset : Nat) :
    Decidable (CodeAt options text offset) :=
  decidable_of_iff
    (∃ s ∈ Scanner.places options (.start options text), s.offset = offset ∧ s.mode = .code)
    (by simp only [Scanner.mem_places_iff]; rfl)

/-! ## The lexer passes over the comment -/

namespace Stride

variable {options : ScanOptions} {previous : Option UInt8} {rule : Option Rule} {rest : Text}

theorem read_lineFeed (mode : Mode) :
    read options mode previous rule (Byte.lineFeed :: rest) = ⟨1, mode.afterLine, none⟩ := rfl

theorem read_comment_opener :
    read options .code previous rule (Byte.slash :: Byte.slash :: rest) =
      ⟨2, .lineComment .code, none⟩ := rfl

theorem distance_lineFeed {line : Text} (oneLine : Byte.lineFeed ∉ line) (rest : Text) :
    distance (· == Byte.lineFeed) (line ++ Byte.lineFeed :: rest) = line.length := by
  have absent : line.findIdx (· == Byte.lineFeed) = line.length :=
    List.findIdx_eq_length.mpr fun b among => by
      rw [beq_eq_false_iff_ne]
      rintro rfl
      exact oneLine among
  rw [distance, List.findIdx_append, absent, if_neg (Nat.lt_irrefl _), List.findIdx_cons,
    beq_self_eq_true, cond_true, Nat.zero_add]

theorem read_comment {b : UInt8} {line : Text} (oneLine : Byte.lineFeed ∉ b :: line) :
    read options (.lineComment .code) previous rule (b :: line ++ Byte.lineFeed :: rest) =
      ⟨(b :: line).length, .lineComment .code, none⟩ := by
  have notLineFeed : b ≠ Byte.lineFeed := (List.ne_of_not_mem_cons oneLine).symm
  have unopened : (Mode.lineComment .code).commentOpened? options
      (b :: (line ++ Byte.lineFeed :: rest)) = none :=
    Mode.commentOpened?_of_hostless rfl _
  rw [List.cons_append]
  simp only [read, if_neg notLineFeed, unopened]
  rw [← List.cons_append, distance_lineFeed oneLine]

end Stride

namespace Scanner

variable (options : ScanOptions) {s : Scanner} {post : Text}

/-- Inside a line comment the rest of the line is passed. -/
theorem reaches_lineFeed {line : Text} (inComment : s.mode = .lineComment .code)
    (ahead : s.ahead = line ++ Byte.lineFeed :: post) (oneLine : Byte.lineFeed ∉ line) :
    ∃ t, Reaches options s t ∧ t.mode = .lineComment .code ∧
      t.ahead = Byte.lineFeed :: post ∧ t.nesting = s.nesting := by
  cases line with
  | nil => exact ⟨s, .refl, inComment, ahead, rfl⟩
  | cons b line =>
      obtain ⟨t, steps, still⟩ := steps_of_read options ahead
        (List.cons_ne_nil b line) fun previous rule => by
          rw [inComment]
          exact Stride.read_comment oneLine
      exact ⟨t, .single steps, still⟩

/-- From the slashes of a line comment the run comes to the next line in code, and
has met nothing. -/
theorem reaches_nextLine {body : Text} (inCode : s.mode = .code)
    (ahead : s.ahead = lineComment body ++ post) (oneLine : Byte.lineFeed ∉ body) :
    ∃ t, Reaches options s t ∧ t.mode = .code ∧ t.ahead = post ∧ t.nesting = s.nesting := by
  have cut : lineComment body ++ post =
      [Byte.slash, Byte.slash] ++ (body ++ Byte.lineFeed :: post) := by
    simp [lineComment]
  obtain ⟨opened, opens, inComment, line, kept⟩ := steps_of_read options
    (ahead.trans cut) (List.cons_ne_nil _ _) fun previous rule => by
      rw [inCode]
      exact Stride.read_comment_opener
  obtain ⟨ended, passes, still, lineEnd, kept'⟩ :=
    reaches_lineFeed options inComment line oneLine
  obtain ⟨t, closes, back, left, kept''⟩ := steps_of_read options
    (show _ = [Byte.lineFeed] ++ post from lineEnd) (List.cons_ne_nil _ _) fun previous rule => by
      rw [still]
      exact Stride.read_lineFeed _
  exact ⟨t, (Relation.ReflTransGen.head opens passes).tail closes, back, left,
    kept''.trans (kept'.trans kept)⟩

end Scanner

theorem Passes.of_comment {options : ScanOptions} {pre body post : Text} {s : Scanner}
    (visits : Scanner.Visits options (pre ++ lineComment body ++ post) s)
    (entry : s.offset = pre.length) (inCode : s.mode = .code) (oneLine : Byte.lineFeed ∉ body) :
    ∃ t, Passes options pre (lineComment body) post s t := by
  have ahead : s.ahead = lineComment body ++ post := by
    rw [visits.cut.2.1, entry, List.append_assoc, List.drop_left]
  obtain ⟨t, reaches, back, left, kept⟩ :=
    Scanner.reaches_nextLine options inCode ahead oneLine
  refine ⟨t, visits, entry, reaches, ?_, back, kept⟩
  obtain ⟨_, cut, _, within⟩ := Scanner.Visits.cut (visits.trans reaches)
  have whole : (pre ++ lineComment body ++ post).length =
      (pre ++ lineComment body).length + post.length := List.length_append
  have lengths := congrArg List.length (left.symm.trans cut)
  rw [List.length_drop] at lengths
  omega

/-! ## What the classifier sees -/

theorem lineComment_reverse (body : Text) :
    (lineComment body).reverse = [Byte.lineFeed] ++ (body.reverse ++ [Byte.slash, Byte.slash]) := by
  simp [lineComment]

theorem getLast?_lineComment (pre body : Text) :
    (pre ++ lineComment body).getLast? = some Byte.lineFeed := by
  rw [← List.head?_reverse, List.reverse_append, lineComment_reverse]
  rfl

/-- With something other than whitespace on the line, the comment before it is not
seen. -/
theorem classify_past_line {near : List UInt8} (solid : ∃ b ∈ near, ¬ Byte.isWhitespace b)
    (pre pre' body body' : Text) :
    classify (near ++ (pre ++ lineComment body).reverse) =
      classify (near ++ (pre' ++ lineComment body').reverse) := by
  rw [List.reverse_append, List.reverse_append, lineComment_reverse, lineComment_reverse]
  exact classify_behind_line solid _ _

/-- With nothing but whitespace on the line, the comment before it alone is seen. -/
theorem classify_at_line {near : List UInt8} (white : ∀ b ∈ near, Byte.isWhitespace b)
    (pre body : Text) :
    classify (near ++ (pre ++ lineComment body).reverse) =
      classify (lineComment body).reverse := by
  have ended : ∀ b ∈ [Byte.lineFeed], Byte.isWhitespace b :=
    List.forall_mem_singleton.mpr rfl
  have gap : ∀ b ∈ near ++ [Byte.lineFeed], Byte.isWhitespace b :=
    List.forall_mem_append.mpr ⟨white, ended⟩
  rw [List.reverse_append, lineComment_reverse, List.append_assoc, ← List.append_assoc,
    classify_behind_gap gap ended (List.append_ne_nil_of_right_ne_nil _ (List.cons_ne_nil _ _))
      (List.cons_ne_nil _ _)]
  have hidden := classify_behind (x := Byte.slash) (by decide) (by decide) (by decide)
    ([Byte.lineFeed] ++ body.reverse) (Byte.slash :: pre.reverse) [Byte.slash]
  simpa using hidden

/-! ## Exchanging comments -/

/-- An element that is a tag on its own wherever it is not taken for a type. -/
def loneElement : Text := [Byte.lessThan, 0x61, Byte.slash, Byte.greaterThan]

/-- What the step over a lone element finds. -/
def loneFinding : Option Rule → Finding
  | some rule => .typeBrackets rule
  | none => .tag .single "a"

theorem Stride.read_loneElement {options : ScanOptions} (named : 0 < options.maxNameLength)
    (previous : Option UInt8) (rule : Option Rule) :
    read options .code previous rule loneElement =
      ⟨loneElement.length, .code, some (loneFinding rule)⟩ := by
  cases rule with
  | some rule => rfl
  | none =>
      obtain ⟨limit, bound⟩ := Nat.exists_eq_succ_of_ne_zero (Nat.ne_of_gt named)
      have word : [0x61, Byte.slash, Byte.greaterThan].takeWhile TagName.isPart = [0x61] := by
        decide
      have name : TagName.bytes options.maxNameLength [0x61, Byte.slash, Byte.greaterThan] =
          [0x61] := by
        rw [TagName.bytes, word, bound, List.take_succ_cons, List.take_nil]
      have opened : openingTag options [0x61, Byte.slash, Byte.greaterThan] =
          ⟨3, .code, some (.tag .single "a")⟩ := by
        rw [openingTag, name]
        rfl
      change (openingTag options [0x61, Byte.slash, Byte.greaterThan]).behind 1 = _
      rw [opened]
      rfl

/-- What is counted if a lone element is all that is left. -/
theorem Passes.tagsChecked_loneElement {options : ScanOptions} {pre body : Text}
    {s t : Scanner} (named : 0 < options.maxNameLength)
    (passes : Passes options pre (lineComment body) loneElement s t) :
    (scan options (pre ++ lineComment body ++ loneElement)).tagsChecked =
      if claimsNextLine body then s.nesting.tagsChecked else s.nesting.tagsChecked + 1 := by
  have seen : classify t.lexer.cursor.before = classify (lineComment body).reverse := by
    rw [passes.before]
    exact classify_at_line (List.forall_mem_nil _) pre body
  have stride : t.lexer.stride options =
      ⟨loneElement.length, .code, some (loneFinding (classify (lineComment body).reverse))⟩ := by
    rw [← Stride.read_loneElement named t.lexer.cursor.before.head?, ← seen, ← passes.ahead]
    change Stride.read options t.mode _ _ _ = _
    rw [passes.inCode]
    rfl
  have ahead : t.lexer.cursor.after = loneElement := passes.ahead
  have ended : (t.lexer.step options).1.cursor.after = [] := by
    rw [Lexer.step_eq_stride, stride, Cursor.advance_after, ahead, List.drop_length]
  rw [passes.scan_eq, Scanner.run_eq_settle,
    Lexer.lexemesAhead_of_ahead options (ahead ▸ List.cons_ne_nil _ _),
    Lexer.lexemesAhead_of_end options ended, Lexer.step_eq_stride, stride, passes.kept,
    claimsNextLine]
  cases classify (lineComment body).reverse with
  | none => rfl
  | some rule => rfl

/-- Two line comments can be exchanged if what the next line begins with, if it is a
bracket, is taken for the same after both. Where it is not, there is a next line that
shows the difference. -/
theorem scan_exchanges_comment (options : ScanOptions) {pre body body' post : Text}
    (oneLine : Byte.lineFeed ∉ body) (oneLine' : Byte.lineFeed ∉ body')
    (inCode : CodeAt options (pre ++ lineComment body ++ post) pre.length) :
    ((∀ white first rest, post = white ++ Byte.lessThan :: first :: rest →
        (∀ b ∈ white, Byte.isWhitespace b) → TagName.isStart first →
        claimsNextLine body = claimsNextLine body') →
      (scan options (pre ++ lineComment body ++ post)).Alike
        (Resited pre (lineComment body) (lineComment body'))
        (scan options (pre ++ lineComment body' ++ post))) ∧
    (0 < options.maxNameLength → claimsNextLine body ≠ claimsNextLine body' →
      (scan options (pre ++ lineComment body ++ loneElement)).tagsChecked ≠
        (scan options (pre ++ lineComment body' ++ loneElement)).tagsChecked) := by
  obtain ⟨s, visits, entry, back⟩ := inCode
  have elsewhere (body' post' : Text) : ∃ s', s'.nesting = s.nesting ∧
      Scanner.Visits options (pre ++ lineComment body' ++ post') s' ∧
      s'.offset = pre.length ∧ s'.mode = .code := by
    rw [List.append_assoc] at visits
    refine ⟨s.withAhead (lineComment body' ++ post'), rfl, ?_, entry, back⟩
    rw [List.append_assoc]
    exact visits.withAhead entry
  refine ⟨?_, ?_⟩
  · intro alike
    obtain ⟨s', same, visits', entry', back'⟩ := elsewhere body' post
    obtain ⟨t, passes⟩ := Passes.of_comment visits entry back oneLine
    obtain ⟨t', passes'⟩ := Passes.of_comment visits' entry' back' oneLine'
    apply passes.scan_alike passes' same
    · rw [getLast?_lineComment, getLast?_lineComment]
    · intro near first rest cut starts
      by_cases solid : ∃ b ∈ near.reverse, ¬ Byte.isWhitespace b
      · rw [classify_past_line solid pre pre body body']
      · have white : ∀ b ∈ near.reverse, Byte.isWhitespace b := fun b among =>
          by_contra fun dark => solid ⟨b, among, dark⟩
        rw [classify_at_line white, classify_at_line white]
        exact alike near first rest cut (fun b among => white b (List.mem_reverse.mpr among)) starts
  · intro named differ
    obtain ⟨u, same, visits, entry, back⟩ := elsewhere body loneElement
    obtain ⟨u', same', visits', entry', back'⟩ := elsewhere body' loneElement
    obtain ⟨t, passes⟩ := Passes.of_comment visits entry back oneLine
    obtain ⟨t', passes'⟩ := Passes.of_comment visits' entry' back' oneLine'
    rw [passes.tagsChecked_loneElement named, passes'.tagsChecked_loneElement named, same, same']
    cases claims : claimsNextLine body with
    | true =>
        have unclaimed : claimsNextLine body' = false :=
          Bool.eq_false_iff.mpr fun claims' => differ (claims.trans claims'.symm)
        rw [unclaimed]
        exact (Nat.succ_ne_self _).symm
    | false =>
        have claims' : claimsNextLine body' = true :=
          Bool.ne_false_iff.mp fun unclaimed => differ (claims.trans unclaimed.symm)
        rw [claims']
        exact Nat.succ_ne_self _

theorem scan_exchanges_comment_element :
    let pre : Text := "<a>".toUTF8.toList
    let body : Text := " note".toUTF8.toList
    let body' : Text := " some <b> words".toUTF8.toList
    let post : Text := "<br/></c>".toUTF8.toList
    Byte.lineFeed ∉ body ∧ Byte.lineFeed ∉ body' ∧
      CodeAt {} (pre ++ lineComment body ++ post) pre.length ∧
      (scan {} (pre ++ lineComment body ++ post)).Alike
        (Resited pre (lineComment body) (lineComment body'))
        (scan {} (pre ++ lineComment body' ++ post)) ∧
      (scan {} (pre ++ lineComment body' ++ post)).defect.map Defect.gist =
        some (.tagMismatch, ["a", "c"], none) := by
  intro pre body body' post
  have oneLine : Byte.lineFeed ∉ body := by decide +kernel
  have oneLine' : Byte.lineFeed ∉ body' := by decide +kernel
  have inCode : CodeAt {} (pre ++ lineComment body ++ post) pre.length := by decide +kernel
  have alike : claimsNextLine body = claimsNextLine body' := by decide +kernel
  have exchanged := (scan_exchanges_comment {} oneLine oneLine' inCode).1 fun _ _ _ _ _ _ => alike
  have found : (scan {} (pre ++ lineComment body ++ post)).defect.map Defect.gist =
      some (.tagMismatch, ["a", "c"], none) := by decide +kernel
  exact ⟨oneLine, oneLine', inCode, exchanged, exchanged.gist_eq.symm.trans found⟩

/-- What a line comment says can change the verdict: after one comment an element is counted,
and after the other it is not. -/
theorem comment_text_counts :
    ¬ ∀ (options : ScanOptions) (pre body body' post : Text),
      Byte.lineFeed ∉ body → Byte.lineFeed ∉ body' →
      CodeAt options (pre ++ lineComment body ++ post) pre.length →
      (scan options (pre ++ lineComment body ++ post)).tagsChecked =
          (scan options (pre ++ lineComment body' ++ post)).tagsChecked ∧
        (scan options (pre ++ lineComment body ++ post)).defect.map Defect.gist =
          (scan options (pre ++ lineComment body' ++ post)).defect.map Defect.gist := by
  intro same
  let note : Text := " note:".toUTF8.toList
  let note' : Text := " note".toUTF8.toList
  let post : Text := "<br/>".toUTF8.toList
  have oneLine : Byte.lineFeed ∉ note := by decide +kernel
  have oneLine' : Byte.lineFeed ∉ note' := by decide +kernel
  have inCode : CodeAt {} ([] ++ lineComment note ++ post) 0 := by decide +kernel
  have missed : (scan {} ([] ++ lineComment note ++ post)).tagsChecked = 0 := by decide +kernel
  have counted : (scan {} ([] ++ lineComment note' ++ post)).tagsChecked = 1 := by decide +kernel
  have equal := (same {} [] note note' post oneLine oneLine' inCode).1
  rw [missed, counted] at equal
  cases equal

end TagCheck
