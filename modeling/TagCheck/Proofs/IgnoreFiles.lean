/-
# Ignore files line by line

What an ignore file holds is decided line by line. The lines of two texts with a line feed
between them are those of the one and then those of the other (`patternLines_append`), whatever
stands at the seam: a carriage return before the line feed is trimmed off, and what is empty or
a comment is so on its own. A list grows by what each line adds to it and by nothing else
(`extend_eq`), so the two texts can be read apart.

To read a list back from its lines, each of them must be a line that is read as it stands
(`IsGlobLine`). How the lines end is then left open.
-/

import Mathlib.Data.List.DropRight
import TagCheck.Config.IgnoreList
import TagCheck.Proofs.PathSteps

namespace TagCheck

namespace IgnoreList

/-! ## Growing -/

section

variable [GlobEngine]

/-- What a text adds to a list: the glob that it is, if it is one. -/
def globsOf (pattern : String) : List CompiledGlob := (empty.push pattern).value.globs

/-- What is reported of a text that is added to a list. -/
def complaints (pattern : String) : List Event := (empty.push pattern).events

theorem push_eq (l : IgnoreList) (pattern : String) :
    l.push pattern = ⟨⟨l.globs ++ globsOf pattern⟩, complaints pattern⟩ := by
  simp only [push, globsOf, complaints]
  split
  · rfl
  · simp only [empty, List.append_nil]

theorem extend_eq (l : IgnoreList) (patterns : List String) :
    l.extend patterns = ⟨⟨l.globs ++ patterns.flatMap globsOf⟩, patterns.flatMap complaints⟩ := by
  have onto (start : Logged IgnoreList) :
      patterns.foldl (fun list pattern => list.andThen (·.push pattern)) start =
        ⟨⟨start.value.globs ++ patterns.flatMap globsOf⟩,
          start.events ++ patterns.flatMap complaints⟩ := by
    induction patterns generalizing start with
    | nil => simp only [List.foldl_nil, List.flatMap_nil, List.append_nil]
    | cons pattern rest ih =>
        rw [List.foldl_cons, ih, Logged.andThen, push_eq]
        simp only [List.flatMap_cons, List.append_assoc]
  exact onto ⟨l, []⟩

/-- The list with texts added one after the other. -/
def pushEach (l : IgnoreList) (patterns : List String) : IgnoreList :=
  patterns.foldl (fun list pattern => (list.push pattern).value) l

theorem pushEach_eq (l : IgnoreList) (patterns : List String) :
    l.pushEach patterns = ⟨l.globs ++ patterns.flatMap globsOf⟩ := by
  induction patterns generalizing l with
  | nil =>
      rw [List.flatMap_nil, List.append_nil]
      rfl
  | cons pattern rest ih =>
      rw [pushEach, List.foldl_cons, push_eq]
      change pushEach _ rest = _
      rw [ih, List.flatMap_cons, List.append_assoc]

/-- A text that is a glob is added as it was written, and nothing is reported. -/
theorem push_of_glob {pattern : String} (glob : ∃ m, GlobEngine.compile pattern = .ok m) :
    (∃ g : CompiledGlob, g.text = pattern ∧ globsOf pattern = [g]) ∧ complaints pattern = [] := by
  obtain ⟨m, compiles⟩ := glob
  rw [globsOf, complaints, push]
  split
  · exact ⟨⟨_, rfl, rfl⟩, rfl⟩
  · rename_i reason failed
    rw [compiles] at failed
    cases failed

/-- Globs are listed as they were written. -/
theorem extend_of_globs {patterns : List String}
    (globs : ∀ pattern ∈ patterns, ∃ m, GlobEngine.compile pattern = .ok m) :
    (empty.extend patterns).value.patterns = patterns ∧ (empty.extend patterns).events = [] := by
  rw [extend_eq]
  constructor
  · have listed : ∀ pattern ∈ patterns, (globsOf pattern).map (·.text) = [pattern] := by
      intro pattern among
      obtain ⟨⟨g, written, added⟩, _⟩ := push_of_glob (globs pattern among)
      rw [added, List.map_singleton, written]
    simp only [IgnoreList.patterns, empty, List.nil_append, List.map_flatMap]
    rw [List.flatMap_congr listed]
    exact List.flatMap_singleton' patterns
  · exact List.flatMap_eq_nil_iff.mpr fun pattern among => (push_of_glob (globs pattern among)).2

end

/-! ## Lines -/

theorem patternLines_append (first second : String) :
    patternLines (first ++ "\n" ++ second) = patternLines first ++ patternLines second := by
  have text : (first ++ "\n" ++ second).toList = first.toList ++ '\n' :: second.toList := by
    rw [String.toList_append, String.toList_append, List.append_assoc]
    rfl
  simp only [patternLines, text, pieces, piecesFrom_append, List.map_append, List.filter_append]

/-- The ways for a line to end. -/
def lineEndings : List String := ["\n", "\r\n"]

theorem trimLine_return (line : List Char) : trimLine (line ++ ['\r']) = trimLine line :=
  List.rdropWhile_concat_pos (· = '\r') line '\r' rfl

theorem patternLines_of_not_mem {text : String} (oneLine : '\n' ∉ text.toList) :
    patternLines text =
      if isPatternLine (trimLine text.toList) then [String.ofList (trimLine text.toList)]
      else [] := by
  rw [patternLines, pieces, piecesFrom_of_not_mem oneLine]
  simp only [List.reverse_nil, List.nil_append, List.map_singleton, List.filter_singleton]
  split <;> simp_all

/-- A glob that can stand on a line of an ignore file. -/
structure IsGlobLine [GlobEngine] (pattern : String) : Prop where
  glob : ∃ m, GlobEngine.compile pattern = .ok m
  filled : pattern ≠ ""
  noComment : pattern.toList.head? ≠ some '#'
  oneLine : '\n' ∉ pattern.toList
  noReturn : pattern.toList.getLast? ≠ some '\r'

section

variable [GlobEngine] {pattern : String}

theorem IsGlobLine.trimLine_eq (line : IsGlobLine pattern) :
    trimLine pattern.toList = pattern.toList := by
  apply List.rdropWhile_eq_self_iff.mpr
  intro filled isReturn
  apply line.noReturn
  rw [List.getLast?_eq_some_getLast filled, of_decide_eq_true isReturn]

/-- A line may have a carriage return at its end. -/
theorem IsGlobLine.patternLines_eq (line : IsGlobLine pattern) {tail : String}
    (ends : tail = "" ∨ tail = "\r") : patternLines (pattern ++ tail) = [pattern] := by
  have trimmed : trimLine (pattern ++ tail).toList = pattern.toList := by
    rw [String.toList_append]
    rcases ends with rfl | rfl
    · rw [String.toList_empty, List.append_nil]
      exact line.trimLine_eq
    · exact (trimLine_return _).trans line.trimLine_eq
  have oneLine : '\n' ∉ (pattern ++ tail).toList := by
    rw [String.toList_append, List.mem_append, not_or]
    refine ⟨line.oneLine, ?_⟩
    rcases ends with rfl | rfl <;> decide
  have counts : isPatternLine pattern.toList = true := by
    have filled : pattern.toList.isEmpty = false := by
      simpa using line.filled
    simp [isPatternLine, filled, line.noComment]
  rw [patternLines_of_not_mem oneLine, trimmed, if_pos counts, String.ofList_toList]

/-- A line that has ended is read apart from what follows. -/
theorem IsGlobLine.patternLines_cons (line : IsGlobLine pattern) {ending : String}
    (ends : ending ∈ lineEndings) (rest : String) :
    patternLines (pattern ++ ending ++ rest) = pattern :: patternLines rest := by
  have alone := line.patternLines_eq (.inl rfl)
  have returned := line.patternLines_eq (.inr rfl)
  rw [String.append_empty] at alone
  rcases List.mem_cons.mp ends with rfl | ends
  · rw [patternLines_append, alone, List.singleton_append]
  · obtain rfl := List.mem_singleton.mp ends
    have apart : pattern ++ "\r\n" = pattern ++ "\r" ++ "\n" := by
      rw [String.append_assoc]
      rfl
    rw [apart, patternLines_append, returned, List.singleton_append]

theorem patternLines_intercalate {patterns : List String}
    (lines : ∀ pattern ∈ patterns, IsGlobLine pattern) {ending last : String}
    (ends : ending ∈ lineEndings) (ended : last = "" ∨ last ∈ lineEndings) :
    patternLines (ending.intercalate patterns ++ last) = patterns := by
  induction patterns with
  | nil =>
      rw [String.intercalate_nil, String.empty_append]
      rcases ended with rfl | among
      · rfl
      · rcases List.mem_cons.mp among with rfl | among
        · rfl
        · rw [List.mem_singleton.mp among]
          rfl
  | cons pattern rest ih =>
      obtain ⟨line, others⟩ := List.forall_mem_cons.mp lines
      cases rest with
      | nil =>
          rw [String.intercalate_singleton]
          rcases ended with rfl | among
          · exact line.patternLines_eq (.inl rfl)
          · rw [← String.append_empty (s := pattern ++ last), line.patternLines_cons among]
            rfl
      | cons next rest =>
          rw [String.intercalate_cons_cons, String.append_assoc,
            line.patternLines_cons ends, ih others]

/-- Ignore files are read line by line and read back as they were written. Of two texts with a
line feed between them, an ignore file holds the globs of the one and then those of the other,
and reports what is no glob in the same order. Globs written on lines of their own, with either
line ending between them and one or none behind the last, are listed again in their order; the
list is the same as if they had been added one by one, so that it ignores the same paths. -/
theorem parse_linewise (first second : String) :
    (parse (first ++ "\n" ++ second)).value.globs =
        (parse first).value.globs ++ (parse second).value.globs ∧
      (parse (first ++ "\n" ++ second)).value.patterns =
        (parse first).value.patterns ++ (parse second).value.patterns ∧
      (parse (first ++ "\n" ++ second)).events = (parse first).events ++ (parse second).events ∧
      ∀ patterns : List String, (∀ pattern ∈ patterns, IsGlobLine pattern) →
        ∀ ending ∈ lineEndings, ∀ last, last = "" ∨ last ∈ lineEndings →
          let read := parse (ending.intercalate patterns ++ last)
          read.value.patterns = patterns ∧ read.events = [] ∧
            read.value = empty.pushEach patterns ∧
            ∀ path, read.value.ignores path = (empty.pushEach patterns).ignores path := by
  have globs : (parse (first ++ "\n" ++ second)).value.globs =
      (parse first).value.globs ++ (parse second).value.globs := by
    simp only [parse, extend_eq, patternLines_append, List.flatMap_append]
    rfl
  refine ⟨globs, ?_, ?_, ?_⟩
  · simp only [IgnoreList.patterns, globs, List.map_append]
  · simp only [parse, extend_eq, patternLines_append, List.flatMap_append]
  · intro patterns lines ending ends last ended read
    have found : read = empty.extend patterns :=
      congrArg empty.extend (patternLines_intercalate lines ends ended)
    obtain ⟨listed, silent⟩ := extend_of_globs fun pattern among => (lines pattern among).glob
    have same : read.value = empty.pushEach patterns := by
      rw [found, extend_eq, pushEach_eq]
    refine ⟨?_, ?_, same, fun path => congrArg (ignores · path) same⟩
    · rw [found, listed]
    · rw [found, silent]

end

/-- The first text ends in a carriage return, the second begins with what is no glob; and two
globs are written with both line endings. -/
theorem parse_linewise_returns :
    let joined := parse ("# old\na*\r" ++ "\n" ++ "[b\nc")
    let read := parse ("\r\n".intercalate ["*.g.tsx", "b\r#"] ++ "\n")
    (∀ pattern ∈ ["*.g.tsx", "b\r#"], IsGlobLine pattern) ∧
      joined.value.patterns = ["a*", "c"] ∧ joined.events = (parse "[b\nc").events ∧
      joined.events ≠ [] ∧ read.value.patterns = ["*.g.tsx", "b\r#"] ∧ read.events = [] ∧
      read.value.ignores "x/y.g.tsx" = true := by
  intro joined read
  have lines : ∀ pattern ∈ ["*.g.tsx", "b\r#"], IsGlobLine pattern := by
    rw [List.forall_mem_cons, List.forall_mem_singleton]
    exact ⟨⟨⟨_, rfl⟩, by decide, by decide, by decide, by decide⟩,
      ⟨⟨_, rfl⟩, by decide, by decide, by decide, by decide⟩⟩
  obtain ⟨_, patterns, events, readBack⟩ := parse_linewise "# old\na*\r" "[b\nc"
  obtain ⟨listed, silent, _, ignored⟩ := readBack _ lines "\r\n" (by decide) "\n" (by decide)
  refine ⟨lines, patterns.trans (by decide), events, ?_, listed, silent, ?_⟩
  · decide +kernel
  · rw [ignored]
    decide +kernel

end IgnoreList
end TagCheck
