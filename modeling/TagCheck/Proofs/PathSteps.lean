/-
# Paths by their steps

A path is judged by its steps: they decide where it leads to, what the name there is and
which of two paths comes first. Cutting at slashes goes piece by piece, so that what stands
behind a slash adds its own steps to those in front (`steps_append`). Going down from a folder
therefore adds one step for each name (`steps_below`), and paths below a folder are in the
order of the names that lead down to them (`below_before`).
-/

import TagCheck.Files.Path
import TagCheck.Proofs.NameOrder

namespace TagCheck

theorem piecesFrom_append (separator : Char) (piece front rest : List Char) :
    piecesFrom separator piece (front ++ separator :: rest) =
      piecesFrom separator piece front ++ pieces separator rest := by
  induction front generalizing piece with
  | nil => simp [piecesFrom, pieces]
  | cons c front ih =>
      rw [List.cons_append, piecesFrom, piecesFrom]
      split
      · rw [ih, List.cons_append]
      · rw [ih]

theorem piecesFrom_of_not_mem {separator : Char} {text : List Char} (undivided : separator ∉ text)
    (piece : List Char) : piecesFrom separator piece text = [piece.reverse ++ text] := by
  induction text generalizing piece with
  | nil => rw [piecesFrom, List.append_nil]
  | cons c rest ih =>
      have other : c ≠ separator := fun same => undivided (same ▸ List.mem_cons_self)
      have undividedRest : separator ∉ rest := fun within =>
        undivided (List.mem_cons_of_mem c within)
      rw [piecesFrom, if_neg other, ih undividedRest, List.reverse_cons, List.append_assoc]
      rfl

theorem stringPieces_append (front rest : String) :
    stringPieces '/' (front ++ "/" ++ rest) = stringPieces '/' front ++ stringPieces '/' rest := by
  have text : (front ++ "/" ++ rest).toList = front.toList ++ '/' :: rest.toList := by
    rw [String.toList_append, String.toList_append, List.append_assoc]
    rfl
  rw [stringPieces, text, pieces, piecesFrom_append, List.map_append]
  rfl

theorem stringPieces_of_not_mem {name : String} (undivided : '/' ∉ name.toList) :
    stringPieces '/' name = [name] := by
  rw [stringPieces, pieces, piecesFrom_of_not_mem undivided]
  exact congrArg (fun text => [text]) String.ofList_toList

theorem exists_stringPieces_eq_cons (path : String) :
    ∃ first rest, stringPieces '/' path = first :: rest := by
  obtain ⟨piece, others, cut⟩ :=
    List.exists_cons_of_ne_nil (piecesFrom_ne_nil '/' [] path.toList)
  refine ⟨String.ofList piece, others.map String.ofList, ?_⟩
  rw [stringPieces, pieces, cut]
  rfl

/-- Only the empty text has nothing but an empty part. -/
theorem eq_empty_of_stringPieces {path : String} (cut : stringPieces '/' path = [""]) :
    path = "" := by
  obtain ⟨piece, others, pieced⟩ :=
    List.exists_cons_of_ne_nil (piecesFrom_ne_nil '/' [] path.toList)
  have whole := intercalate_pieces '/' path.toList
  rw [stringPieces, pieces, pieced] at cut
  rw [pieces, pieced] at whole
  obtain ⟨first, none⟩ := List.cons_eq_cons.mp cut
  rw [List.map_eq_nil_iff.mp none, String.ofList_eq_empty_iff.mp first] at whole
  rw [← String.ofList_toList (s := path), ← whole]
  rfl

namespace Path

/-! ## Steps -/

theorem stepsOf_append (front rest : List String) :
    stepsOf (front ++ rest) = stepsOf front ++ stepsOf rest :=
  List.filterMap_append

section Cases

variable {path first second : String} {rest : List String}

theorem steps_of_root (cut : stringPieces '/' path = "" :: second :: rest) :
    steps path = .root :: stepsOf (second :: rest) := by
  simp only [steps, cut]

theorem steps_of_here (cut : stringPieces '/' path = "." :: rest) :
    steps path = .here :: stepsOf rest := by
  simp only [steps, cut]

theorem steps_of_other (cut : stringPieces '/' path = first :: rest) (filled : first ≠ "")
    (notHere : first ≠ ".") : steps path = stepsOf (first :: rest) := by
  rw [steps, cut]
  split
  · rename_i same
    exact absurd (List.cons_eq_cons.mp same).1 filled
  · rename_i same
    exact absurd (List.cons_eq_cons.mp same).1 notHere
  · rfl

end Cases

/-- What is behind a path and a slash adds its steps to those of the path. -/
theorem steps_append {front : String} (filled : front ≠ "") (rest : String) :
    steps (front ++ "/" ++ rest) = steps front ++ stepsOf (stringPieces '/' rest) := by
  have joined := stringPieces_append front rest
  obtain ⟨first, others, cut⟩ := exists_stringPieces_eq_cons front
  rw [cut, List.cons_append] at joined
  by_cases root : first = ""
  · subst root
    cases others with
    | nil => exact absurd (eq_empty_of_stringPieces cut) filled
    | cons second others =>
        rw [List.cons_append] at joined
        rw [steps_of_root cut, steps_of_root joined, ← List.cons_append, stepsOf_append,
          List.cons_append]
  by_cases here : first = "."
  · subst here
    rw [steps_of_here cut, steps_of_here joined, stepsOf_append, List.cons_append]
  · rw [steps_of_other cut root here, steps_of_other joined root here, ← List.cons_append,
      stepsOf_append]

/-- What an entry of a folder can be called. -/
structure IsName (name : String) : Prop where
  filled : name ≠ ""
  undivided : '/' ∉ name.toList
  notHere : name ≠ "."
  notParent : name ≠ ".."

theorem isName_iff {name : String} :
    IsName name ↔ name ≠ "" ∧ '/' ∉ name.toList ∧ name ≠ "." ∧ name ≠ ".." :=
  ⟨fun isName => ⟨isName.filled, isName.undivided, isName.notHere, isName.notParent⟩,
    fun ⟨filled, undivided, notHere, notParent⟩ => ⟨filled, undivided, notHere, notParent⟩⟩

instance (name : String) : Decidable (IsName name) := decidable_of_iff' _ isName_iff

theorem IsName.stepsOf_eq {name : String} (isName : IsName name) :
    stepsOf (stringPieces '/' name) = [.into name] := by
  rw [stringPieces_of_not_mem isName.undivided]
  simp [stepsOf, isName.filled, isName.notHere, isName.notParent]

theorem endsWith_slash_iff {path : String} :
    path.endsWith "/" = true ↔ ∃ front, path = front ++ "/" := by
  rw [String.endsWith_eq_endsWith_toSlice, String.Slice.endsWith_string_iff, String.copy_toSlice]
  constructor
  · rintro ⟨front, whole⟩
    refine ⟨String.ofList front, ?_⟩
    rw [← String.toList_inj, String.toList_append, String.toList_ofList, whole]
  · rintro ⟨front, rfl⟩
    exact ⟨front.toList, String.toList_append.symm⟩

/-- A name adds one step to the path of its folder. -/
theorem steps_join {folder name : String} (filled : folder ≠ "") (isName : IsName name) :
    steps (join folder name) = steps folder ++ [.into name] := by
  have behindSlash {front : String} (filled : front ≠ "") :
      steps (front ++ "/" ++ name) = steps front ++ [.into name] := by
    rw [steps_append filled, isName.stepsOf_eq]
  by_cases ended : folder.endsWith "/" = true
  · obtain ⟨front, rfl⟩ := endsWith_slash_iff.mp ended
    rw [join, ended, Bool.or_true, if_pos rfl]
    by_cases root : front = ""
    · subst root
      have cut : stringPieces '/' ("" ++ "/" ++ name) = ["", name] := by
        rw [stringPieces_append, stringPieces_of_not_mem isName.undivided]
        rfl
      have into : stepsOf [name] = [.into name] := by
        rw [← isName.stepsOf_eq, stringPieces_of_not_mem isName.undivided]
      rw [steps_of_root cut, into]
      rfl
    · have unended : steps (front ++ "/" ++ "") = steps front ++ [] := steps_append root ""
      rw [String.append_empty, List.append_nil] at unended
      rw [unended, behindSlash root]
  · rw [join, if_neg (by simp [filled, ended])]
    exact behindSlash filled

/-- The path of what lies below a folder, on the way that these names describe. -/
def below (folder : String) (way : List String) : String := way.foldl join folder

theorem join_ne_empty {folder : String} (filled : folder ≠ "") (name : String) :
    join folder name ≠ "" := by
  rw [join]
  split
  · exact fun empty => filled (String.append_eq_empty_iff.mp empty).1
  · exact fun empty => filled (String.append_eq_empty_iff.mp
      (String.append_eq_empty_iff.mp empty).1).1

theorem steps_below {folder : String} (filled : folder ≠ "") {way : List String}
    (names : ∀ name ∈ way, IsName name) :
    steps (below folder way) = steps folder ++ way.map .into := by
  induction way generalizing folder with
  | nil => exact (List.append_nil _).symm
  | cons name way ih =>
      have isName := names name List.mem_cons_self
      have others : ∀ other ∈ way, IsName other := fun other among =>
        names other (List.mem_cons_of_mem name among)
      change steps (below (join folder name) way) = _
      rw [ih (join_ne_empty filled name) others, steps_join filled isName, List.append_assoc]
      rfl

/-! ## The order of paths -/

/-- What decides between two steps: first of which kind they are, then the bytes of a name. -/
def Step.rank : Step → List UInt8
  | root => [0]
  | here => [1]
  | parent => [2]
  | into name => 3 :: Byte.letters name

/-- One path comes before another, compared step by step and in names byte by byte. -/
def Before (path path' : String) : Prop := (steps path).map Step.rank < (steps path').map Step.rank

theorem ranks_lt {way way' : List String} (less : way < way') :
    (way.map Step.into).map Step.rank < (way'.map Step.into).map Step.rank := by
  induction less with
  | nil => exact List.nil_lt_cons _ _
  | rel less =>
      apply List.cons_lt_cons_iff.mpr
      exact .inl (List.cons_lt_cons_iff.mpr (.inr ⟨rfl, Byte.letters_lt less⟩))
  | cons _ ih => exact List.cons_lt_cons_iff.mpr (.inr ⟨rfl, ih⟩)

/-- Of two ways down from a folder, the lesser leads to the earlier path. -/
theorem below_before {folder : String} (filled : folder ≠ "") {way way' : List String}
    (names : ∀ name ∈ way, IsName name) (names' : ∀ name ∈ way', IsName name)
    (less : way < way') : Before (below folder way) (below folder way') := by
  rw [Before, steps_below filled names, steps_below filled names', List.map_append,
    List.map_append]
  exact List.append_left_lt (ranks_lt less)

end Path

end TagCheck
