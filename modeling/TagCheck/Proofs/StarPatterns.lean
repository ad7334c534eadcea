/-
# Patterns of characters and stars

Most patterns in an ignore file are made of characters that stand for themselves and of stars.
What such a pattern stands for can be said without globs (`StandsFor`): a star for any text at
all, slashes included. The pattern is matched on the whole path or on the name at its end.

Nothing of this depends on how globs are compiled and matched. An engine is only asked for what
the documentation of globs promises of each character in turn (`GlobEngine.ReadsStars`), and
the texts a pattern stands for follow by induction over the pattern
(`GlobEngine.ReadsStars.matches_iff`). The engine that reads globs as tokens keeps what is
promised (`GlobEngine.readsStars`).
-/

import TagCheck.Proofs.GlobTokens
import TagCheck.Proofs.IgnoreFiles

namespace TagCheck

/-! ## What patterns stand for -/

/-- The texts that a pattern of characters and stars stands for: a star stands for any text,
the empty one too, and every other character for itself. -/
inductive StandsFor : List Char → List Char → Prop
  | nil : StandsFor [] []
  | star (passed : List Char) {pattern text : List Char} (rest : StandsFor pattern text) :
      StandsFor ('*' :: pattern) (passed ++ text)
  | character {c : Char} (plain : c ≠ '*') {pattern text : List Char}
      (rest : StandsFor pattern text) : StandsFor (c :: pattern) (c :: text)

theorem standsFor_nil_iff {text : List Char} : StandsFor [] text ↔ text = [] := by
  constructor
  · rintro ⟨⟩
    rfl
  · rintro rfl
    exact .nil

theorem standsFor_star_iff {pattern text : List Char} :
    StandsFor ('*' :: pattern) text ↔
      ∃ front back, text = front ++ back ∧ StandsFor pattern back := by
  constructor
  · intro stands
    cases stands with
    | star passed rest => exact ⟨passed, _, rfl, rest⟩
    | character plain rest => exact absurd rfl plain
  · rintro ⟨front, back, rfl, rest⟩
    exact .star front rest

theorem standsFor_character_iff {c : Char} (plain : c ≠ '*') {pattern text : List Char} :
    StandsFor (c :: pattern) text ↔ ∃ back, text = c :: back ∧ StandsFor pattern back := by
  constructor
  · intro stands
    cases stands with
    | star passed rest => exact absurd rfl plain
    | character plain rest => exact ⟨_, rfl, rest⟩
  · rintro ⟨back, rfl, rest⟩
    exact .character plain rest

/-- A pattern without stars stands for itself alone. -/
theorem standsFor_iff_eq {pattern text : List Char} (starless : '*' ∉ pattern) :
    StandsFor pattern text ↔ text = pattern := by
  induction pattern generalizing text with
  | nil => exact standsFor_nil_iff
  | cons c pattern ih =>
      rw [standsFor_character_iff (List.ne_of_not_mem_cons starless).symm]
      simp only [ih (List.not_mem_of_not_mem_cons starless), exists_eq_right]

/-- The characters that mean something in a glob, apart from the star. -/
def globSigns : List Char := ['?', '[', ']', '\x7b', '\x7d', '\\']

/-- A pattern of characters that stand for themselves and stars that stand alone. -/
structure IsStarPattern (pattern : List Char) : Prop where
  signless : ∀ c ∈ pattern, c ∉ globSigns
  apart : pattern.IsChain fun c d => c = '*' → d ≠ '*'

namespace IsStarPattern

variable {c : Char} {pattern : List Char}

theorem nil : IsStarPattern [] where
  signless := List.forall_mem_nil _
  apart := .nil

theorem of_starless (starless : '*' ∉ pattern) (signless : ∀ c ∈ pattern, c ∉ globSigns) :
    IsStarPattern pattern where
  signless := signless
  apart := by
    apply List.Pairwise.isChain
    apply List.pairwise_iff_getElem.mpr
    intro i _ inside _ _ isStar
    exact absurd (isStar ▸ List.getElem_mem inside) starless

theorem tail (star : IsStarPattern (c :: pattern)) : IsStarPattern pattern where
  signless := fun d among => star.signless d (List.mem_cons_of_mem c among)
  apart := star.apart.of_cons

theorem head?_ne (star : IsStarPattern ('*' :: pattern)) : pattern.head? ≠ some '*' := by
  intro doubled
  obtain ⟨rest, rfl⟩ := List.head?_eq_some_iff.mp doubled
  exact (List.isChain_cons_cons.mp star.apart).1 rfl rfl

end IsStarPattern

/-! ## What is asked of an engine -/

namespace GlobEngine

section

variable [GlobEngine]

/-- Whether the pattern is a glob that matches the text. -/
def Matches (pattern text : List Char) : Prop :=
  ∃ matcher, compile (String.ofList pattern) = .ok matcher ∧
    isMatch matcher (String.ofList text) = true

/-- What is documented of characters and stars: a character that has no meaning matches itself,
a star zero or more characters, and a glob is matched from end to end. -/
structure ReadsStars : Prop where
  compiles : ∀ pattern, IsStarPattern pattern →
    ∃ matcher, compile (String.ofList pattern) = .ok matcher
  nothing : ∀ text, Matches [] text ↔ text = []
  character : ∀ c pattern text, c ≠ '*' → IsStarPattern (c :: pattern) →
    (Matches (c :: pattern) text ↔ ∃ back, text = c :: back ∧ Matches pattern back)
  star : ∀ pattern text, IsStarPattern ('*' :: pattern) →
    (Matches ('*' :: pattern) text ↔ ∃ front back, text = front ++ back ∧ Matches pattern back)

/-- What is documented of two stars and a slash in front: they match all folders, so that what
is behind them is to match the whole text or what is behind one of its slashes. -/
structure ReadsFolders : Prop where
  folders : ∀ pattern text, pattern ≠ [] → IsStarPattern pattern →
    (Matches ('*' :: '*' :: '/' :: pattern) text ↔
      Matches pattern text ∨ ∃ front back, text = front ++ '/' :: back ∧ Matches pattern back)

/-- A star pattern matches what it stands for. -/
theorem ReadsStars.matches_iff (laws : ReadsStars) {pattern text : List Char}
    (star : IsStarPattern pattern) : Matches pattern text ↔ StandsFor pattern text := by
  induction pattern generalizing text with
  | nil => rw [laws.nothing, standsFor_nil_iff]
  | cons c pattern ih =>
      by_cases isStar : c = '*'
      · subst isStar
        rw [laws.star pattern text star, standsFor_star_iff]
        simp only [ih star.tail]
      · rw [laws.character c pattern text isStar star, standsFor_character_iff isStar]
        simp only [ih star.tail]

end

end GlobEngine

theorem CompiledGlob.isMatch_iff [GlobEngine] (glob : CompiledGlob) (text : String) :
    glob.isMatch text = true ↔ GlobEngine.Matches glob.text.toList text.toList := by
  rw [isMatch, GlobEngine.Matches, String.ofList_toList, String.ofList_toList, glob.compiled]
  constructor
  · exact fun matched => ⟨glob.matcher, rfl, matched⟩
  · rintro ⟨matcher, same, matched⟩
    rwa [Except.ok.inj same]

/-! ## The engine that reads tokens -/

namespace Glob

/-- What a character of a star pattern is read as. -/
def starToken (c : Char) : GlobToken := if c = '*' then .anyBytes else .literal c

theorem readFrom_star (draft : Draft) (previous : Option Char) {rest : List Char}
    (alone : rest.head? ≠ some '*') :
    readFrom draft (.plain previous) ('*' :: rest) =
      readFrom (draft.push .anyBytes) (.plain (some '*')) rest := by
  rw [readFrom]
  rintro further rfl
  exact alone rfl

/-- Outside groups a comma, too, is read as it stands. -/
theorem readFrom_literal {draft : Draft} (outside : draft.groups = []) (previous : Option Char)
    {c : Char} (plain : c ≠ '*') (signless : c ∉ globSigns) (rest : List Char) :
    readFrom draft (.plain previous) (c :: rest) =
      readFrom (draft.push (.literal c)) (.plain (some c)) rest := by
  by_cases comma : c = ','
  · subst comma
    rw [readFrom, Draft.nextBranch, outside]
  · simp only [globSigns, List.mem_cons, List.not_mem_nil, or_false, not_or] at signless
    rw [readFrom] <;> simp_all

theorem readFrom_starPattern {draft : Draft} (outside : draft.groups = [])
    (previous : Option Char) {pattern : List Char} (star : IsStarPattern pattern) :
    readFrom draft (.plain previous) pattern =
      .ok (draft.current.reverse ++ pattern.map starToken) := by
  induction pattern generalizing draft previous with
  | nil =>
      rw [readFrom, Draft.finish, Draft.isGrouped, outside, List.map_nil, List.append_nil]
      rfl
  | cons c pattern ih =>
      have onward (token : GlobToken) : readFrom (draft.push token) (.plain (some c)) pattern =
          .ok (draft.current.reverse ++ token :: pattern.map starToken) := by
        have read := @ih (draft.push token) outside (some c) star.tail
        rwa [Draft.push, List.reverse_cons, List.append_assoc] at read
      by_cases isStar : c = '*'
      · subst isStar
        rw [readFrom_star draft previous star.head?_ne, onward]
        rfl
      · rw [readFrom_literal outside previous isStar (star.signless c List.mem_cons_self), onward,
          List.map_cons, starToken, if_neg isStar]

section Tokens

open GlobToken

variable {text : List Char}

theorem reaches_nothing_iff : reaches [] (text.flatMap charBytes) = true ↔ text = [] := by
  rw [reaches_nil_iff, List.flatMap_eq_nil_iff]
  constructor
  · intro nothing
    exact List.eq_nil_iff_forall_not_mem.mpr fun c among => charBytes_ne_nil c (nothing c among)
  · rintro rfl c among
    exact absurd among List.not_mem_nil

theorem reaches_character_iff {c : Char} {rest : List GlobToken} :
    reaches (.literal c :: rest) (text.flatMap charBytes) = true ↔
      ∃ back, text = c :: back ∧ reaches rest (back.flatMap charBytes) = true := by
  rw [reaches_literal_iff]
  constructor
  · rintro ⟨ahead, cut, reached⟩
    cases text with
    | nil =>
        rw [List.flatMap_nil] at cut
        exact absurd (List.append_eq_nil_iff.mp cut.symm).1 (charBytes_ne_nil c)
    | cons d text =>
        rw [List.flatMap_cons] at cut
        obtain ⟨rfl, rfl⟩ := eq_of_charBytes_append cut
        exact ⟨text, rfl, reached⟩
  · rintro ⟨back, rfl, reached⟩
    exact ⟨_, List.flatMap_cons, reached⟩

/-- A star that stands alone passes whole characters. -/
theorem reaches_star_iff {pattern : List Char} (alone : pattern.head? ≠ some '*') :
    reaches (.anyBytes :: pattern.map starToken) (text.flatMap charBytes) = true ↔
      ∃ front back, text = front ++ back ∧
        reaches (pattern.map starToken) (back.flatMap charBytes) = true := by
  rw [reaches_anyBytes_iff]
  constructor
  · rintro ⟨gap, ahead, cut, reached⟩
    -- Behind the star nothing follows, or a whole character.
    have between : ∃ front back, text = front ++ back ∧ ahead = back.flatMap charBytes := by
      cases pattern with
      | nil =>
          rw [List.map_nil, reaches_nil_iff] at reached
          exact ⟨text, [], (List.append_nil text).symm, reached⟩
      | cons d pattern =>
          have plain : d ≠ '*' := fun same => alone (congrArg some same)
          rw [List.map_cons, starToken, if_neg plain] at reached
          obtain ⟨more, rfl, _⟩ := reaches_literal_iff.mp reached
          obtain ⟨b, others, bytes, first⟩ := exists_charBytes_eq_cons d
          rw [bytes] at cut ⊢
          exact exists_cut cut first
    obtain ⟨front, back, rfl, rfl⟩ := between
    exact ⟨front, back, rfl, reached⟩
  · rintro ⟨front, back, rfl, reached⟩
    exact ⟨_, _, List.flatMap_append, reached⟩

theorem matchesString_ofList {glob : Glob} (other : glob.tokens ≠ [.leadingFolders])
    (text : List Char) :
    glob.matchesString (String.ofList text) = reaches glob.tokens (text.flatMap charBytes) := by
  have bytes : (String.ofList text).toUTF8.toList = text.flatMap charBytes := by
    rw [Byte.toList_toUTF8, String.toList_ofList]
    exact List.flatMap_congr fun c _ => (charBytes_eq c).symm
  rw [matchesString, isMatch, bytes]
  split
  · rename_i same
    exact absurd same other
  · rfl

theorem matches_iff_reaches {pattern : List Char} {tokens : List GlobToken}
    (read : readFrom {} (.plain none) pattern = .ok tokens)
    (other : tokens ≠ [.leadingFolders]) :
    GlobEngine.Matches pattern text ↔ reaches tokens (text.flatMap charBytes) = true := by
  have compiles : GlobEngine.compile (String.ofList pattern) =
      .ok (⟨String.ofList pattern, tokens⟩ : Glob) := by
    change (parse (String.ofList pattern)).mapError _ = _
    rw [parse, String.toList_ofList, read]
    rfl
  let glob : Glob := ⟨String.ofList pattern, tokens⟩
  have whole : glob.matchesString (String.ofList text) = _ := matchesString_ofList other text
  rw [GlobEngine.Matches, compiles, ← whole]
  constructor
  · rintro ⟨matcher, same, matched⟩
    rwa [← Except.ok.inj same] at matched
  · exact fun matched => ⟨_, rfl, matched⟩

theorem matches_star_iff_reaches {pattern : List Char} (star : IsStarPattern pattern) :
    GlobEngine.Matches pattern text ↔
      reaches (pattern.map starToken) (text.flatMap charBytes) = true := by
  apply matches_iff_reaches (readFrom_starPattern rfl none star)
  intro same
  obtain ⟨c, rest, _, folders, _⟩ := List.map_eq_cons_iff.mp same
  rw [starToken] at folders
  split at folders <;> cases folders

end Tokens

end Glob

namespace GlobEngine

open Glob

/-- The engine that reads tokens keeps what is promised of characters and stars. -/
theorem readsStars : ReadsStars where
  compiles pattern star := by
    change ∃ matcher, (Glob.parse (String.ofList pattern)).mapError _ = .ok matcher
    rw [Glob.parse, String.toList_ofList, readFrom_starPattern rfl none star]
    exact ⟨_, rfl⟩
  nothing text := by
    rw [matches_star_iff_reaches .nil]
    exact reaches_nothing_iff
  character c pattern text plain star := by
    rw [matches_star_iff_reaches star, List.map_cons, starToken, if_neg plain,
      reaches_character_iff]
    simp only [matches_star_iff_reaches star.tail]
  star pattern text star := by
    rw [matches_star_iff_reaches star, List.map_cons, starToken, if_pos rfl,
      reaches_star_iff star.head?_ne]
    simp only [matches_star_iff_reaches star.tail]

/-- It keeps what is promised of folders in front. -/
theorem readsFolders : ReadsFolders where
  folders pattern text filled star := by
    have read : readFrom {} (.plain none) ('*' :: '*' :: '/' :: pattern) =
        .ok (.leadingFolders :: pattern.map starToken) := by
      have behind : readFrom {} (.plain none) ('*' :: '*' :: '/' :: pattern) =
          readFrom (Draft.push {} .leadingFolders) (.plain (some '/')) pattern := by
        rw [readFrom]
        rfl
      rw [behind, readFrom_starPattern rfl _ star]
      rfl
    have other : (.leadingFolders :: pattern.map starToken) ≠ [GlobToken.leadingFolders] := by
      intro same
      exact filled (List.map_eq_nil_iff.mp (List.cons.inj same).2)
    rw [matches_iff_reaches read other, GlobToken.reaches_leadingFolders_iff,
      matches_star_iff_reaches star]
    apply or_congr_right
    constructor
    · rintro ⟨gap, ahead, cut, reached⟩
      obtain ⟨front, back, rfl, behind⟩ := exists_cut cut (by decide)
      cases back with
      | nil => cases behind
      | cons c back =>
          have slash : charBytes '/' = [Byte.slash] := charBytes_eq '/'
          have whole : charBytes '/' ++ ahead = charBytes c ++ back.flatMap charBytes := by
            rw [slash]
            exact behind
          obtain ⟨rfl, rfl⟩ := eq_of_charBytes_append whole
          exact ⟨front, back, rfl, (matches_star_iff_reaches star).mpr reached⟩
    · rintro ⟨front, back, rfl, matched⟩
      refine ⟨front.flatMap charBytes, back.flatMap charBytes, ?_,
        (matches_star_iff_reaches star).mp matched⟩
      rw [List.flatMap_append, List.flatMap_cons, charBytes_eq '/']
      rfl

end GlobEngine

/-! ## What is ignored -/

namespace IgnoreList

/-- Star patterns mean what they say. All of them are added, none is complained of, and a path
is ignored just if one of them stands for the path or for the name at its end. -/
theorem ignores_iff_standsFor [GlobEngine] (laws : GlobEngine.ReadsStars)
    {patterns : List String} (stars : ∀ pattern ∈ patterns, IsStarPattern pattern.toList) :
    (empty.extend patterns).value.patterns = patterns ∧
      (empty.extend patterns).events = [] ∧
      ∀ path, (empty.extend patterns).value.ignores path = true ↔
        ∃ pattern ∈ patterns, StandsFor pattern.toList path.toList ∨
          ∃ name, Path.fileName? path = some name ∧ StandsFor pattern.toList name.toList := by
  have globs : ∀ pattern ∈ patterns, ∃ matcher, GlobEngine.compile pattern = .ok matcher := by
    intro pattern among
    rw [← pattern.ofList_toList]
    exact laws.compiles pattern.toList (stars pattern among)
  obtain ⟨listed, silent⟩ := extend_of_globs globs
  refine ⟨listed, silent, fun path => ?_⟩
  have caught (pattern : String) (among : pattern ∈ patterns) :
      ((globsOf pattern).any fun glob =>
        glob.isMatch path || (Path.fileName? path).any glob.isMatch) = true ↔
      StandsFor pattern.toList path.toList ∨
        ∃ name, Path.fileName? path = some name ∧ StandsFor pattern.toList name.toList := by
    obtain ⟨⟨glob, rfl, added⟩, _⟩ := push_of_glob (globs pattern among)
    rw [added, List.any_cons, List.any_nil, Bool.or_false, Bool.or_eq_true, Option.any_eq_true]
    simp only [glob.isMatch_iff, laws.matches_iff (stars _ among)]
  rw [extend_eq, ignores]
  simp only [empty, List.nil_append, List.any_flatMap, List.any_eq_true]
  constructor
  · rintro ⟨pattern, among, found⟩
    exact ⟨pattern, among, (caught pattern among).mp (List.any_eq_true.mpr found)⟩
  · rintro ⟨pattern, among, stands⟩
    exact ⟨pattern, among, List.any_eq_true.mp ((caught pattern among).mpr stands)⟩

theorem ignores_iff_standsFor_names :
    let patterns := ["src/*/Old.tsx", "*é.tsx", ""]
    (∀ pattern ∈ patterns, IsStarPattern pattern.toList) ∧
      (empty.extend patterns).value.patterns = patterns ∧
      (empty.extend patterns).value.ignores "src/a/b/Old.tsx" = true ∧
      (empty.extend patterns).value.ignores "lib/né.tsx" = true ∧
      ¬ StandsFor "src/*/Old.tsx".toList "lib/src/a/Old.tsx".toList := by
  intro patterns
  have stars : ∀ pattern ∈ patterns, IsStarPattern pattern.toList := by
    simp only [patterns, List.forall_mem_cons]
    exact ⟨⟨by simp [globSigns], by simp⟩, ⟨by simp [globSigns], by simp⟩,
      ⟨by simp, by simp⟩, List.forall_mem_nil _⟩
  have behind {tail : List Char} (starless : '*' ∉ tail) (passed : List Char) :
      StandsFor ('*' :: tail) (passed ++ tail) :=
    .star passed ((standsFor_iff_eq starless).mpr rfl)
  obtain ⟨listed, _, ignored⟩ := ignores_iff_standsFor GlobEngine.readsStars stars
  refine ⟨stars, listed, ?_, ?_, ?_⟩
  · refine (ignored _).mpr ⟨"src/*/Old.tsx", by decide, .inl ?_⟩
    exact .character (by decide) (.character (by decide) (.character (by decide)
      (.character (by decide) (behind (by decide) "a/b".toList))))
  · refine (ignored _).mpr ⟨"*é.tsx", by decide, .inr ⟨"né.tsx", by decide, ?_⟩⟩
    exact behind (by decide) ['n']
  · intro stands
    have caught : (empty.extend patterns).value.ignores "lib/src/a/Old.tsx" = false := by
      decide +kernel
    rw [(ignored _).mpr ⟨_, List.mem_cons_self, .inl stands⟩] at caught
    cases caught

end IgnoreList
end TagCheck
