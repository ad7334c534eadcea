/-
# Two spellings of an input

An input can be given with a dot and a slash in front, and then leads to the same place
(`resolve_fromHere`). The same files are found in the same order, each with a dot and a slash
in front of its path; only a folder of which the path gets too long by that is not opened any
more (`exists_paths`). Names and extensions are the same too, so only globs that match whole
paths can make a difference. They do: a glob that begins with the name of a folder matches a
path that begins with that name, and not the other spelling of the path.

Patterns that float do not tell the two spellings apart (`Floats`). A star in front passes the
dot and the slash, as two stars for folders do, and a name behind the stars keeps the pattern
from taking them in. A pattern that is a name matches no path with a slash at all.
-/

import Mathlib.Data.List.Forall2
import TagCheck.Proofs.Discoveries
import TagCheck.Proofs.StarPatterns

namespace TagCheck

open FileTree

namespace Path

/-- A path that begins with a step to where it starts from. -/
def fromHere (path : String) : String := "./" ++ path

theorem toList_fromHere (path : String) : (fromHere path).toList = '.' :: '/' :: path.toList := by
  rw [fromHere, String.toList_append]
  rfl

theorem stringPieces_fromHere (path : String) :
    stringPieces '/' (fromHere path) = "." :: stringPieces '/' path :=
  stringPieces_append "." path

/-- The steps of a path are those of its parts, except for a first step that is into nothing. -/
theorem steps_cases (path : String) :
    steps path = stepsOf (stringPieces '/' path) ∨
      ∃ first, (first = .root ∨ first = .here) ∧
        steps path = first :: stepsOf (stringPieces '/' path) := by
  obtain ⟨first, others, cut⟩ := exists_stringPieces_eq_cons path
  by_cases root : first = ""
  · subst root
    cases others with
    | nil =>
        rw [eq_empty_of_stringPieces cut]
        exact .inl rfl
    | cons second others =>
        refine .inr ⟨.root, .inl rfl, ?_⟩
        rw [steps_of_root cut, cut]
        rfl
  by_cases here : first = "."
  · subst here
    refine .inr ⟨.here, .inr rfl, ?_⟩
    rw [steps_of_here cut, cut]
    rfl
  · left
    rw [steps_of_other cut root here, cut]

theorem fileName?_eq_some_iff {path name : String} :
    fileName? path = some name ↔
      (stepsOf (stringPieces '/' path)).getLast? = some (.into name) := by
  have last : fileName? path = some name ↔ (steps path).getLast? = some (.into name) := by
    rw [fileName?]
    split
    · rename_i other found
      rw [found, Option.some.injEq, Option.some.injEq, Step.into.injEq]
    · rename_i nothing
      constructor
      · intro absent
        cases absent
      · intro found
        exact absurd found (nothing name)
  rw [last]
  rcases steps_cases path with same | ⟨first, outside, same⟩
  · rw [same]
  · rw [same]
    generalize stepsOf (stringPieces '/' path) = inner
    cases inner with
    | nil => rcases outside with rfl | rfl <;> simp
    | cons next inner => rw [List.getLast?_cons_cons]

/-- A dot and a slash in front do not change the name of what a path leads to. -/
theorem fileName?_fromHere (path : String) : fileName? (fromHere path) = fileName? path := by
  ext name
  rw [fileName?_eq_some_iff, fileName?_eq_some_iff, stringPieces_fromHere]
  rfl

/-- A path without a slash is a name. -/
theorem eq_fileName? {path name : String} (named : fileName? path = some name)
    (undivided : '/' ∉ path.toList) : name = path := by
  rw [fileName?_eq_some_iff, stringPieces_of_not_mem undivided] at named
  obtain ⟨part, among, step⟩ := List.mem_filterMap.mp (List.mem_of_getLast? named)
  rw [List.mem_singleton.mp among] at step
  split at step
  · cases step
  split at step
  · cases step
  · exact (Step.into.inj (Option.some.inj step)).symm

theorem checks_fromHere (config : Config) (path : String) :
    config.checks (fromHere path) = config.checks path := by
  rw [Config.checks, Config.checks, extension?, extension?, fileName?_fromHere]

theorem exists_fileName?_of_checks {config : Config} {path : String}
    (checked : config.checks path = true) : ∃ name, fileName? path = some name := by
  cases named : fileName? path with
  | some name => exact ⟨name, rfl⟩
  | none =>
      rw [Config.checks, extension?, named] at checked
      cases checked

theorem fromHere_ne_empty (path : String) : fromHere path ≠ "" := by
  intro empty
  have text := toList_fromHere path
  rw [empty] at text
  cases text

theorem endsWith_fromHere {folder : String} (filled : folder ≠ "") :
    (fromHere folder).endsWith "/" = folder.endsWith "/" := by
  obtain ⟨c, rest, text⟩ : ∃ c rest, folder.toList = c :: rest :=
    List.exists_cons_of_ne_nil fun empty => filled (String.toList_eq_nil_iff.mp empty)
  rw [Bool.eq_iff_iff, String.endsWith_eq_endsWith_toSlice, String.endsWith_eq_endsWith_toSlice,
    String.Slice.endsWith_string_iff, String.Slice.endsWith_string_iff, String.copy_toSlice,
    String.copy_toSlice, toList_fromHere, text]
  change ['/'] <:+ _ ↔ ['/'] <:+ _
  rw [List.suffix_cons_iff, List.suffix_cons_iff]
  simp

theorem join_fromHere {folder : String} (filled : folder ≠ "") (name : String) :
    join (fromHere folder) name = fromHere (join folder name) := by
  rw [join, join, endsWith_fromHere filled, decide_eq_false filled,
    decide_eq_false (fromHere_ne_empty folder)]
  split
  · exact String.append_assoc ..
  · rw [fromHere, fromHere, String.append_assoc, String.append_assoc, String.append_assoc]

theorem below_fromHere {folder : String} (filled : folder ≠ "") (way : List String) :
    below (fromHere folder) way = fromHere (below folder way) := by
  induction way generalizing folder with
  | nil => rfl
  | cons name way ih =>
      change below (join (fromHere folder) name) way = fromHere (below (join folder name) way)
      rw [join_fromHere filled, ih (join_ne_empty filled name)]

end Path

namespace Path

/-- What precedes the last slash of a path. -/
def folder (path : String) : String :=
  String.ofList (((path.toList.reverse.dropWhile (· ≠ '/')).drop 1).reverse)

theorem folder_append {outer name : String} (undivided : '/' ∉ name.toList) :
    folder (outer ++ "/" ++ name) = outer := by
  have backwards : (outer ++ "/" ++ name).toList.reverse =
      name.toList.reverse ++ '/' :: outer.toList.reverse := by
    simp [String.toList_append]
  have passed : ∀ c ∈ name.toList.reverse, decide (c ≠ '/') = true := by
    intro c among
    apply decide_eq_true
    rintro rfl
    exact undivided (List.mem_reverse.mp among)
  rw [folder, backwards, List.dropWhile_append_of_pos passed, List.dropWhile_cons_of_neg (by simp)]
  simp

theorem endsWith_join {outer name : String} (isName : IsName name) :
    (join outer name).endsWith "/" = false := by
  apply Bool.eq_false_iff.mpr
  intro ends
  obtain ⟨front, cut⟩ := endsWith_slash_iff.mp ends
  have last : (join outer name).toList.getLast? = some '/' := by
    simp [cut, String.toList_append]
  have own : (join outer name).toList.getLast? = name.toList.getLast? := by
    have filled : name.toList ≠ [] :=
      fun nothing => isName.filled (String.toList_eq_nil_iff.mp nothing)
    rw [join]
    split <;> rw [String.toList_append, List.getLast?_append_of_ne_nil _ filled]
  exact isName.undivided (List.mem_of_getLast? (own ▸ last))

/-- What is on a way down from a folder lies where the last name of the way is looked up. -/
theorem folder_below {outer : String} (filled : outer ≠ "") (unended : outer.endsWith "/" = false)
    {way : List String} (names : ∀ name ∈ way, IsName name) (down : way ≠ []) :
    folder (below outer way) = below outer way.dropLast := by
  induction way generalizing outer with
  | nil => exact absurd rfl down
  | cons name way ih =>
      obtain ⟨isName, others⟩ := List.forall_mem_cons.mp names
      cases way with
      | nil =>
          change folder (join outer name) = outer
          rw [join, decide_eq_false filled, unended, if_neg (by decide),
            folder_append isName.undivided]
      | cons next way =>
          exact ih (join_ne_empty filled name) (endsWith_join isName) others
            (List.cons_ne_nil _ _)

/-- A slash at the end of the path of a folder is none that precedes what is in the folder. -/
theorem size_folder_join_le {outer name : String} (filled : outer ≠ "") (isName : IsName name) :
    (folder (join outer name)).utf8ByteSize ≤ outer.utf8ByteSize := by
  rw [join, decide_eq_false filled, Bool.false_or]
  split
  · rename_i ends
    obtain ⟨front, rfl⟩ := endsWith_slash_iff.mp ends
    rw [folder_append isName.undivided, String.utf8ByteSize_append]
    exact Nat.le_add_right _ _
  · rw [folder_append isName.undivided]

end Path

/-! ## Where an input leads -/

namespace Disk

/-- Staying where one is costs nothing, but has to be done in a folder. -/
theorem follow_here (above : List FileTree) (tree : FileTree) {parts : List String}
    (some : parts ≠ []) : follow above tree ("." :: parts) = follow above tree parts := by
  obtain ⟨part, rest, rfl⟩ := List.exists_cons_of_ne_nil some
  cases tree with
  | file contents => rfl
  | special contents => rfl
  | barred isFolder problem => cases isFolder <;> rfl
  | folder entries => simp [follow]

variable {disk : Disk} {input : String}

/-- Where the system allows paths of this length, the spellings lead to the same place. -/
theorem resolve_fromHere (filled : input ≠ "") (relative : input.startsWith "/" = false)
    (fits : (Path.fromHere input).utf8ByteSize ≤ maxPathLength) :
    disk.resolve (Path.fromHere input) = disk.resolve input := by
  have zeros : (Path.fromHere input).toList.contains '\x00' = input.toList.contains '\x00' := by
    rw [Path.toList_fromHere]
    rfl
  have fits' : ¬ input.utf8ByteSize > maxPathLength := by
    rw [Path.fromHere, String.utf8ByteSize_append] at fits
    omega
  have relative' : (Path.fromHere input).startsWith "/" = false := by
    rw [String.startsWith_string_eq_false_iff, Path.toList_fromHere]
    simp
  have parts : stringPieces '/' input ≠ [] := by
    obtain ⟨first, rest, cut⟩ := exists_stringPieces_eq_cons input
    rw [cut]
    exact List.cons_ne_nil _ _
  rw [resolve, resolve, zeros, if_neg (Path.fromHere_ne_empty input), if_neg filled,
    if_neg (Nat.not_lt.mpr fits), if_neg fits', relative, relative',
    if_neg Bool.false_ne_true, if_neg Bool.false_ne_true, Path.stringPieces_fromHere,
    follow_here disk.above disk.here parts]

/-- A path that does not lead to a folder does not lead to one in the other spelling. -/
theorem isFolder_fromHere (filled : input ≠ "") (relative : input.startsWith "/" = false)
    (other : disk.isFolder input = false) : disk.isFolder (Path.fromHere input) = false := by
  by_cases fits : (Path.fromHere input).utf8ByteSize ≤ maxPathLength
  · rw [isFolder, resolve_fromHere filled relative fits]
    exact other
  · have missing : ∀ tree, disk.resolve (Path.fromHere input) ≠ .ok tree := by
      intro tree resolved
      rw [resolve, if_neg (Path.fromHere_ne_empty input), if_pos (Nat.lt_of_not_le fits)]
        at resolved
      split at resolved
      · cases resolved
      · cases resolved
    apply Bool.eq_false_iff.mpr
    intro folder
    obtain ⟨tree, resolved, _⟩ := isFolder_iff.mp folder
    exact missing tree resolved

end Disk

/-! ## Patterns that float -/

/-- Patterns with a name in front: a character that is no dot, no slash and no star, or a dot
and then a character that is no slash and no star. -/
inductive BeginsWithName : List Char → Prop
  | plain {c : Char} {rest : List Char} (notDot : c ≠ '.') (notSlash : c ≠ '/')
      (notStar : c ≠ '*') : BeginsWithName (c :: rest)
  | dotted {c : Char} {rest : List Char} (notSlash : c ≠ '/') (notStar : c ≠ '*') :
      BeginsWithName ('.' :: c :: rest)

/-- Patterns for which it does not matter where a path begins: a name, or what begins with one
behind a star or behind two stars for folders. -/
inductive Floats : List Char → Prop
  | name {pattern : List Char} (starless : '*' ∉ pattern) (undivided : '/' ∉ pattern)
      (signless : ∀ c ∈ pattern, c ∉ globSigns) : Floats pattern
  | star {rest : List Char} (pattern : IsStarPattern ('*' :: rest)) (name : BeginsWithName rest) :
      Floats ('*' :: rest)
  | folders {rest : List Char} (pattern : IsStarPattern rest) (name : BeginsWithName rest) :
      Floats ('*' :: '*' :: '/' :: rest)

namespace BeginsWithName

variable {pattern text : List Char}

theorem ne_nil (name : BeginsWithName pattern) : pattern ≠ [] := by
  cases name <;> exact List.cons_ne_nil _ _

theorem not_standsFor_slash (name : BeginsWithName pattern) :
    ¬ StandsFor pattern ('/' :: text) := by
  intro stands
  cases name with
  | plain notDot notSlash notStar =>
      obtain ⟨back, same, _⟩ := (standsFor_character_iff notStar).mp stands
      exact notSlash (List.cons.inj same).1.symm
  | dotted notSlash notStar =>
      obtain ⟨back, same, _⟩ := (standsFor_character_iff (by decide)).mp stands
      cases same

theorem not_standsFor_here (name : BeginsWithName pattern) :
    ¬ StandsFor pattern ('.' :: '/' :: text) := by
  intro stands
  cases name with
  | plain notDot notSlash notStar =>
      obtain ⟨back, same, _⟩ := (standsFor_character_iff notStar).mp stands
      exact notDot (List.cons.inj same).1.symm
  | dotted notSlash notStar =>
      obtain ⟨back, same, behind⟩ := (standsFor_character_iff (by decide)).mp stands
      obtain rfl := (List.cons.inj same).2
      obtain ⟨further, same, _⟩ := (standsFor_character_iff notStar).mp behind
      exact notSlash (List.cons.inj same).1.symm

/-- What ends a text with a dot and a slash in front and begins with a name ends the text
behind them. -/
theorem ends_here_iff (name : BeginsWithName pattern) :
    (∃ front back, '.' :: '/' :: text = front ++ back ∧ StandsFor pattern back) ↔
      ∃ front back, text = front ++ back ∧ StandsFor pattern back := by
  constructor
  · rintro ⟨front, back, cut, stands⟩
    cases front with
    | nil =>
        obtain rfl := cut
        exact (name.not_standsFor_here stands).elim
    | cons dot front =>
        cases front with
        | nil =>
            obtain rfl := (List.cons.inj cut).2
            exact (name.not_standsFor_slash stands).elim
        | cons slash front =>
            exact ⟨front, back, (List.cons.inj (List.cons.inj cut).2).2, stands⟩
  · rintro ⟨front, back, rfl, stands⟩
    exact ⟨'.' :: '/' :: front, back, rfl, stands⟩

/-- The same with a slash before the end, or with the whole text as the end. -/
theorem ends_behind_slash_here_iff (name : BeginsWithName pattern) :
    (StandsFor pattern ('.' :: '/' :: text) ∨
        ∃ front back, '.' :: '/' :: text = front ++ '/' :: back ∧ StandsFor pattern back) ↔
      StandsFor pattern text ∨
        ∃ front back, text = front ++ '/' :: back ∧ StandsFor pattern back := by
  rw [or_iff_right name.not_standsFor_here]
  constructor
  · rintro ⟨front, back, cut, stands⟩
    cases front with
    | nil => cases cut
    | cons dot front =>
        cases front with
        | nil =>
            obtain rfl := (List.cons.inj (List.cons.inj cut).2).2
            exact .inl stands
        | cons slash front =>
            exact .inr ⟨front, back, (List.cons.inj (List.cons.inj cut).2).2, stands⟩
  · rintro (stands | ⟨front, back, rfl, stands⟩)
    · exact ⟨['.'], text, rfl, stands⟩
    · exact ⟨'.' :: '/' :: front, back, rfl, stands⟩

end BeginsWithName

/-- A pattern that floats matches a text with a dot and a slash in front as it matches the text,
or it matches no text with a slash. -/
theorem Floats.matches_or [GlobEngine] (stars : GlobEngine.ReadsStars)
    (leading : GlobEngine.ReadsFolders) {pattern : List Char} (floats : Floats pattern) :
    (∀ text, GlobEngine.Matches pattern ('.' :: '/' :: text) ↔ GlobEngine.Matches pattern text) ∨
      ∀ text, GlobEngine.Matches pattern text → '/' ∉ text := by
  cases floats with
  | name starless undivided signless =>
      right
      intro text matched
      rw [stars.matches_iff (.of_starless starless signless), standsFor_iff_eq starless] at matched
      exact matched ▸ undivided
  | star star name =>
      left
      intro text
      rw [stars.matches_iff star, stars.matches_iff star, standsFor_star_iff, standsFor_star_iff]
      exact name.ends_here_iff
  | folders star name =>
      left
      intro text
      rw [leading.folders _ _ name.ne_nil star, leading.folders _ _ name.ne_nil star]
      simp only [stars.matches_iff star]
      exact name.ends_behind_slash_here_iff

/-! ## What is ignored -/

namespace IgnoreList

section

variable [GlobEngine]

/-- Whether a glob matches all of a path. -/
def matchesPath (l : IgnoreList) (path : String) : Bool := l.globs.any (·.isMatch path)

/-- Whether a glob matches the name of what a path leads to. -/
def matchesName (l : IgnoreList) (path : String) : Bool :=
  l.globs.any fun glob => (Path.fileName? path).any glob.isMatch

variable {l : IgnoreList} {path : String}

theorem ignores_eq (l : IgnoreList) (path : String) :
    l.ignores path = (l.matchesPath path || l.matchesName path) := by
  rw [Bool.eq_iff_iff, Bool.or_eq_true, ignores, matchesPath, matchesName, List.any_eq_true,
    List.any_eq_true, List.any_eq_true]
  constructor
  · rintro ⟨glob, among, caught⟩
    exact ((Bool.or_eq_true ..).mp caught).imp (fun whole => ⟨glob, among, whole⟩)
      fun name => ⟨glob, among, name⟩
  · rintro (⟨glob, among, whole⟩ | ⟨glob, among, name⟩)
    · exact ⟨glob, among, (Bool.or_eq_true ..).mpr (.inl whole)⟩
    · exact ⟨glob, among, (Bool.or_eq_true ..).mpr (.inr name)⟩

theorem matchesName_fromHere (l : IgnoreList) (path : String) :
    l.matchesName (Path.fromHere path) = l.matchesName path := by
  rw [matchesName, matchesName, Path.fileName?_fromHere]

/-- A path is ignored in both spellings or in neither if its name is caught, or if the globs
match both spellings or neither. -/
theorem ignores_fromHere_iff :
    l.ignores (Path.fromHere path) = l.ignores path ↔
      l.matchesName path = true ∨ l.matchesPath (Path.fromHere path) = l.matchesPath path := by
  rw [ignores_eq, ignores_eq, matchesName_fromHere]
  cases l.matchesName path <;> simp

/-- Where a glob that floats does not catch the name of a path, it treats the two spellings of
the path alike. -/
theorem isMatch_fromHere (stars : GlobEngine.ReadsStars) (leading : GlobEngine.ReadsFolders)
    {glob : CompiledGlob} (floats : Floats glob.text.toList) {name : String}
    (named : Path.fileName? path = some name) (uncaught : ¬ glob.isMatch name = true) :
    glob.isMatch (Path.fromHere path) = glob.isMatch path := by
  rw [Bool.eq_iff_iff, glob.isMatch_iff, glob.isMatch_iff, Path.toList_fromHere]
  rcases floats.matches_or stars leading with same | unslashed
  · exact same _
  · apply iff_of_false
    · intro matched
      exact unslashed _ matched (List.mem_cons_of_mem _ List.mem_cons_self)
    · intro matched
      apply uncaught
      rw [Path.eq_fileName? named (unslashed _ matched), glob.isMatch_iff]
      exact matched

/-- Globs that float treat the two spellings of the path of something with a name alike. -/
theorem ignores_fromHere (stars : GlobEngine.ReadsStars) (leading : GlobEngine.ReadsFolders)
    (floats : ∀ pattern ∈ l.patterns, Floats pattern.toList) {name : String}
    (named : Path.fileName? path = some name) :
    l.ignores (Path.fromHere path) = l.ignores path := by
  apply ignores_fromHere_iff.mpr
  by_cases caught : l.matchesName path = true
  · exact .inl caught
  right
  have alike : ∀ glob ∈ l.globs, glob.isMatch (Path.fromHere path) = glob.isMatch path := by
    intro glob among
    apply isMatch_fromHere stars leading (floats glob.text (List.mem_map_of_mem among)) named
    intro matched
    apply caught
    rw [matchesName, named]
    exact List.any_eq_true.mpr ⟨glob, among, matched⟩
  rw [Bool.eq_iff_iff, matchesPath, matchesPath, List.any_eq_true, List.any_eq_true]
  constructor
  · rintro ⟨glob, among, matched⟩
    exact ⟨glob, among, alike glob among ▸ matched⟩
  · rintro ⟨glob, among, matched⟩
    exact ⟨glob, among, (alike glob among).symm ▸ matched⟩

end

end IgnoreList

/-! ## What is discovered -/

namespace Discovery

/-- Whether the folder that a path lies in can be opened with a dot and a slash in front of its
path. -/
def isInReach (path : String) : Bool :=
  decide ((Path.fromHere (Path.folder path)).utf8ByteSize ≤ Disk.maxPathLength)

section

variable {input : String} {way : List String}

/-- On the way down from an input that can be opened itself, it is the folder of the file that
decides. -/
theorem isPassable_fromHere (filled : input ≠ "")
    (fits : (Path.fromHere input).utf8ByteSize ≤ Disk.maxPathLength)
    (names : ∀ name ∈ way, Path.IsName name) (down : way ≠ []) :
    isPassable (Path.fromHere input) way = isInReach (Path.below input way) := by
  rw [Bool.eq_iff_iff, isPassable_iff _ down, Path.below_fromHere filled, isInReach,
    decide_eq_true_eq]
  obtain ⟨name, rest, rfl⟩ := List.exists_cons_of_ne_nil down
  obtain ⟨isName, others⟩ := List.forall_mem_cons.mp names
  cases rest with
  | nil =>
      have less := Path.size_folder_join_le filled isName
      refine iff_of_true fits ?_
      change (Path.fromHere (Path.folder (Path.join input name))).utf8ByteSize ≤ _
      rw [Path.fromHere, String.utf8ByteSize_append] at fits ⊢
      omega
  | cons next rest =>
      have inner := Path.folder_below (Path.join_ne_empty filled name) (Path.endsWith_join isName)
        others (List.cons_ne_nil _ _)
      change _ ↔ (Path.fromHere (Path.folder
        (Path.below (Path.join input name) (next :: rest)))).utf8ByteSize ≤ _
      rw [inner]
      rfl

/-- What can be opened with a dot and a slash in front of its path can be opened without. -/
theorem isPassable_of_fromHere (filled : input ≠ "")
    (passable : isPassable (Path.fromHere input) way = true) : isPassable input way = true := by
  cases way with
  | nil => rfl
  | cons name way =>
      rw [isPassable_iff _ (List.cons_ne_nil _ _), Path.below_fromHere filled, Path.fromHere,
        String.utf8ByteSize_append] at passable
      rw [isPassable_iff _ (List.cons_ne_nil _ _)]
      omega

/-- Of the ways to files that are checked, those that can be gone with a dot and a slash in
front are those to files in reach. -/
theorem filter_ways_fromHere (config : Config) {tree : FileTree} (filled : input ≠ "")
    (fits : (Path.fromHere input).utf8ByteSize ≤ Disk.maxPathLength)
    (isFolder : tree.isFolder = true) (proper : FileTree.Proper tree) :
    (tree.ways.filter (isPassable (Path.fromHere input))).filter
        (fun way => config.checks (Path.below (Path.fromHere input) way)) =
      ((tree.ways.filter (isPassable input)).filter
        (fun way => config.checks (Path.below input way))).filter
          (isInReach ∘ Path.below input) := by
  simp only [List.filter_filter]
  apply List.filter_congr
  intro way among
  obtain ⟨leadsToFile, _⟩ := mem_ways.mp among
  have passable := isPassable_fromHere filled fits (leadsToFile.names proper)
    (leadsToFile.ne_nil isFolder)
  rw [Path.below_fromHere filled, Path.checks_fromHere, Function.comp_apply, ← passable]
  cases reached : isPassable (Path.fromHere input) way with
  | false => rw [Bool.and_false, Bool.false_and]
  | true => rw [isPassable_of_fromHere filled reached, Bool.true_and]

end

section

variable [GlobEngine] {disk : Disk} {config : Config} {ignore : IgnoreList} {input : String}

/-- What is found at a path, whether or not it is checked. -/
def classify (config : Config) (ignore : IgnoreList) (path : String) : Discovery :=
  if config.checks path then ofPath ignore path else ⟨path, .foreign⟩

theorem classify_of_checks {path : String} (checked : config.checks path = true) :
    classify config ignore path = ofPath ignore path :=
  if_pos checked

theorem classify_of_not {path : String} (unchecked : ¬ config.checks path = true) :
    classify config ignore path = ⟨path, .foreign⟩ :=
  if_neg unchecked

/-- The two spellings of an input find the same paths, in their spelling, as far as they are in
reach. -/
theorem exists_paths (proper : disk.Proper) (config : Config) (ignore : IgnoreList)
    (filled : input ≠ "") (relative : input.startsWith "/" = false)
    (fits : disk.isFolder input = true →
      (Path.fromHere input).utf8ByteSize ≤ Disk.maxPathLength) :
    ∃ paths : List String,
      (ofInput disk config ignore input).value = paths.map (classify config ignore) ∧
        (ofInput disk config ignore (Path.fromHere input)).value =
          (paths.filter fun path => !disk.isFolder input || isInReach path).map fun path =>
            classify config ignore (Path.fromHere path) := by
  cases isFolder : disk.isFolder input with
  | false =>
      refine ⟨[input], ofInput_of_other isFolder, ?_⟩
      exact ofInput_of_other (Disk.isFolder_fromHere filled relative isFolder)
  | true =>
      obtain ⟨tree, leads, treeIsFolder⟩ := Disk.isFolder_iff.mp isFolder
      have leads' : disk.resolve (Path.fromHere input) = .ok tree :=
        (Disk.resolve_fromHere filled relative (fits isFolder)).trans leads
      let taken := (tree.ways.filter (isPassable input)).filter fun way =>
        config.checks (Path.below input way)
      have checked : ∀ way ∈ taken, config.checks (Path.below input way) = true :=
        fun way among => (List.mem_filter.mp among).2
      have again := filter_ways_fromHere config filled (fits isFolder) treeIsFolder
        (Disk.resolve_proper proper leads)
      refine ⟨taken.map (Path.below input), ?_, ?_⟩
      · rw [ofInput_of_folder leads treeIsFolder, List.map_map]
        apply List.map_congr_left
        intro way among
        exact (classify_of_checks (checked way among)).symm
      · rw [ofInput_of_folder leads' treeIsFolder, again]
        simp only [Bool.not_true, Bool.false_or]
        rw [List.filter_map, List.map_map]
        apply List.map_congr_left
        intro way among
        have checks := checked way (List.mem_filter.mp among).1
        rw [Function.comp_apply, Path.below_fromHere filled,
          classify_of_checks ((Path.checks_fromHere config _).trans checks)]

/-- A file as it is found on a path, and as it is found on the path with a dot and a slash in
front: checked or not in both, and ignored in both or in neither if its name is caught or the
globs match both paths or neither. -/
structure Respelled (ignore : IgnoreList) (plain dotted : Discovery) : Prop where
  path : dotted.path = Path.fromHere plain.path
  foreign : dotted.disposition = .foreign ↔ plain.disposition = .foreign
  agree : dotted.disposition = plain.disposition ↔
    plain.disposition = .foreign ∨ ignore.matchesName plain.path = true ∨
      ignore.matchesPath (Path.fromHere plain.path) = ignore.matchesPath plain.path

section Classified

variable {path : String}

theorem disposition_ofPath_eq_iff {path' : String} :
    (ofPath ignore path').disposition = (ofPath ignore path).disposition ↔
      ignore.ignores path' = ignore.ignores path := by
  rw [ofPath, ofPath]
  cases ignore.ignores path <;> cases ignore.ignores path' <;> simp

theorem disposition_ofPath_ne_foreign (ignore : IgnoreList) (path : String) :
    (ofPath ignore path).disposition ≠ .foreign := by
  rw [ofPath]
  cases ignore.ignores path <;> simp

end Classified

theorem respelled_classify (config : Config) (ignore : IgnoreList) (path : String) :
    Respelled ignore (classify config ignore path)
      (classify config ignore (Path.fromHere path)) := by
  by_cases checked : config.checks path = true
  · have checked' : config.checks (Path.fromHere path) = true :=
      (Path.checks_fromHere config path).trans checked
    rw [classify_of_checks checked, classify_of_checks checked']
    have notForeign := disposition_ofPath_ne_foreign ignore path
    refine ⟨rfl, ?_, ?_⟩
    · exact iff_of_false (disposition_ofPath_ne_foreign ignore _) notForeign
    · rw [disposition_ofPath_eq_iff, IgnoreList.ignores_fromHere_iff]
      exact (or_iff_right notForeign).symm
  · have unchecked : ¬ config.checks (Path.fromHere path) = true := by
      rw [Path.checks_fromHere]
      exact checked
    rw [classify_of_not checked, classify_of_not unchecked]
    exact ⟨rfl, Iff.rfl, iff_of_true rfl (.inl rfl)⟩

/-- Globs that float do not tell the spellings of a path apart. -/
theorem disposition_classify_fromHere (stars : GlobEngine.ReadsStars)
    (leading : GlobEngine.ReadsFolders)
    (floats : ∀ pattern ∈ ignore.patterns, Floats pattern.toList) (path : String) :
    (classify config ignore (Path.fromHere path)).disposition =
      (classify config ignore path).disposition := by
  apply (respelled_classify config ignore path).agree.mpr
  by_cases checked : config.checks path = true
  · obtain ⟨name, named⟩ := Path.exists_fileName?_of_checks checked
    rw [classify_of_checks checked]
    exact .inr (IgnoreList.ignores_fromHere_iff.mp
      (IgnoreList.ignores_fromHere stars leading floats named))
  · rw [classify_of_not checked]
    exact .inl rfl

/-- Of what is found for an input, what is found again with a dot and a slash in front of the
input. Folders are opened by their paths, and not if that makes one too long. -/
def foundAgain (disk : Disk) (input : String) (found : List Discovery) : List Discovery :=
  found.filter fun entry => !disk.isFolder input || isInReach entry.path

/-- With a dot and a slash in front of an input the same files are found in the same order, but
for those in folders of which the path gets too long to be opened. What is done with a file may
depend on the spelling, and on nothing but globs that match one of the two paths and not the
other; patterns that float do not. -/
theorem ofInputs_fromHere (proper : disk.Proper) (config : Config) (ignore : IgnoreList)
    (filled : input ≠ "") (relative : input.startsWith "/" = false)
    (fits : disk.isFolder input = true →
      (Path.fromHere input).utf8ByteSize ≤ Disk.maxPathLength) :
    let plain := (ofInputs disk config ignore [input]).value
    let dotted := (ofInputs disk config ignore [Path.fromHere input]).value
    List.Forall₂ (Respelled ignore) (foundAgain disk input plain) dotted ∧
      ((∀ entry ∈ plain, isInReach entry.path = true) →
        List.Forall₂ (Respelled ignore) plain dotted) ∧
      (GlobEngine.ReadsStars → GlobEngine.ReadsFolders →
        (∀ pattern ∈ ignore.patterns, Floats pattern.toList) →
          dotted.map (·.disposition) = (foundAgain disk input plain).map (·.disposition)) := by
  intro plain dotted
  obtain ⟨paths, found, again⟩ := exists_paths proper config ignore filled relative fits
  have value (input : String) :
      (ofInputs disk config ignore [input]).value = (ofInput disk config ignore input).value := by
    rw [ofInputs_value, List.flatMap_singleton]
  have path (path : String) : (classify config ignore path).path = path := by
    rw [classify]
    split <;> rfl
  have kept : foundAgain disk input plain =
      (paths.filter fun path => !disk.isFolder input || isInReach path).map
        (classify config ignore) := by
    simp only [foundAgain, plain, value, found, List.filter_map, Function.comp_def, path]
  have dottedEq : dotted = _ := (value _).trans again
  have respelled : List.Forall₂ (Respelled ignore) (foundAgain disk input plain) dotted := by
    rw [kept, dottedEq, List.forall₂_map_left_iff, List.forall₂_map_right_iff, List.forall₂_same]
    intro path _
    exact respelled_classify config ignore path
  refine ⟨respelled, ?_, ?_⟩
  · intro reached
    have all : foundAgain disk input plain = plain := by
      apply List.filter_eq_self.mpr
      intro entry among
      rw [reached entry among, Bool.or_true]
    exact all ▸ respelled
  · intro stars leading floats
    rw [kept, dottedEq, List.map_map, List.map_map]
    apply List.map_congr_left
    intro path _
    exact disposition_classify_fromHere stars leading floats path

end

/-- Patterns that float: behind a star, behind two stars for folders, and a name. -/
def floatingPatterns : List String := ["*.g.tsx", "**/old", "Z.tsx"]

theorem floats_floatingPatterns : ∀ pattern ∈ floatingPatterns, Floats pattern.toList := by
  have star : "*.g.tsx".toList = '*' :: ['.', 'g', '.', 't', 's', 'x'] := by decide
  have folders : "**/old".toList = '*' :: '*' :: '/' :: ['o', 'l', 'd'] := by decide
  simp only [floatingPatterns, List.forall_mem_cons, star, folders]
  refine ⟨?_, ?_, ?_, List.forall_mem_nil _⟩
  · exact .star ⟨by simp [globSigns], by simp⟩ (.dotted (by decide) (by decide))
  · exact .folders ⟨by simp [globSigns], by simp⟩ (.plain (by decide) (by decide) (by decide))
  · exact .name (by decide) (by decide) (by simp [globSigns])

/-- One of the two files that are found is ignored, in both spellings. -/
theorem ofInputs_fromHere_sampleDisk :
    let ignore := (IgnoreList.empty.extend floatingPatterns).value
    sampleDisk.Proper ∧ "build" ≠ "" ∧ "build".startsWith "/" = false ∧
      (sampleDisk.isFolder "build" = true →
        (Path.fromHere "build").utf8ByteSize ≤ Disk.maxPathLength) ∧
      GlobEngine.ReadsStars ∧ GlobEngine.ReadsFolders ∧
      (∀ pattern ∈ ignore.patterns, Floats pattern.toList) ∧
      (ofInputs sampleDisk Config.unset ignore ["build"]).value =
        [⟨"build/Z.tsx", .ignored⟩, ⟨"build/b.tsx/a.jsx", .check⟩] ∧
      (ofInputs sampleDisk Config.unset ignore [Path.fromHere "build"]).value =
        [⟨"./build/Z.tsx", .ignored⟩, ⟨"./build/b.tsx/a.jsx", .check⟩] := by
  intro ignore
  have relative : "build".startsWith "/" = false := by decide +kernel
  have fits : (Path.fromHere "build").utf8ByteSize ≤ Disk.maxPathLength := by decide
  have floats : ∀ pattern ∈ ignore.patterns, Floats pattern.toList :=
    floats_floatingPatterns
  have plain : (ofInputs sampleDisk Config.unset ignore ["build"]).value =
      [⟨"build/Z.tsx", .ignored⟩, ⟨"build/b.tsx/a.jsx", .check⟩] := by
    rw [ofInputs_value, List.flatMap_singleton, ofInput]
    simp only [resolve_sampleDisk]
    rw [if_pos (by decide), filePaths_sampleFolder]
    decide +kernel
  obtain ⟨_, respelled, alike⟩ := ofInputs_fromHere proper_sampleDisk Config.unset ignore
    (by decide) relative fun _ => fits
  have dispositions := alike GlobEngine.readsStars GlobEngine.readsFolders floats
  rw [plain] at respelled dispositions
  have dotted : (ofInputs sampleDisk Config.unset ignore [Path.fromHere "build"]).value =
      [⟨"./build/Z.tsx", .ignored⟩, ⟨"./build/b.tsx/a.jsx", .check⟩] := by
    generalize (ofInputs sampleDisk Config.unset ignore [Path.fromHere "build"]).value = dotted
      at respelled dispositions ⊢
    have spelled := respelled (by decide +kernel)
    have kept : foundAgain sampleDisk "build"
        [⟨"build/Z.tsx", .ignored⟩, ⟨"build/b.tsx/a.jsx", .check⟩] = _ :=
      List.filter_eq_self.mpr (by decide +kernel)
    rw [kept] at dispositions
    obtain ⟨first, others, respelledFirst, more, rfl⟩ := List.forall₂_cons_left_iff.mp spelled
    obtain ⟨second, none, respelledSecond, nothing, rfl⟩ := List.forall₂_cons_left_iff.mp more
    obtain rfl := List.forall₂_nil_left_iff.mp nothing
    obtain ⟨path, disposition⟩ := first
    obtain ⟨path', disposition'⟩ := second
    obtain rfl : path = "./build/Z.tsx" := respelledFirst.path
    obtain rfl : path' = "./build/b.tsx/a.jsx" := respelledSecond.path
    simp only [List.map_cons, List.map_nil, List.cons.injEq, and_true] at dispositions
    rw [dispositions.1, dispositions.2]
  exact ⟨proper_sampleDisk, by decide, relative, fun _ => fits, GlobEngine.readsStars,
    GlobEngine.readsFolders, floats, plain, dotted⟩

/-- A disk with one file in a folder. -/
def nestedDisk : Disk where
  here := folder [("src", folder [("a.tsx", file [])])]

/-- A glob that begins with the name of a folder catches a file in that folder, but not with a
dot and a slash in front of its path. -/
theorem ofInputs_spelling_matters :
    ¬ ∀ (disk : Disk) (config : Config) (ignore : IgnoreList) (folder : String),
      disk.isFolder folder = true → folder.startsWith "/" = false →
        folder.startsWith "./" = false →
          (ofInputs disk config ignore [Path.fromHere folder]).value.map (·.disposition) =
            (ofInputs disk config ignore [folder]).value.map (·.disposition) := by
  have plain : (ofInputs nestedDisk Config.unset (IgnoreList.parse "src/a.tsx").value
      ["src"]).value = [⟨"src/a.tsx", .ignored⟩] := by
    decide +kernel
  have dotted : (ofInputs nestedDisk Config.unset (IgnoreList.parse "src/a.tsx").value
      [Path.fromHere "src"]).value = [⟨"./src/a.tsx", .check⟩] := by
    decide +kernel
  intro same
  have wrong := same nestedDisk Config.unset (IgnoreList.parse "src/a.tsx").value "src"
    (by decide +kernel) (by decide +kernel) (by decide +kernel)
  rw [plain, dotted] at wrong
  cases wrong

end Discovery

end TagCheck
