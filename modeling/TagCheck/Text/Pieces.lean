/-
# Cutting a text at a separator

Paths, ignore files and lists of directives are texts whose parts stand between
separators.  Cutting loses the separators and nothing else, so putting them back
gives the text again.
-/

namespace TagCheck

/-- The parts of a text between the separators, of which the first begins with
`piece`, given backwards. -/
def piecesFrom (separator : Char) (piece : List Char) : List Char → List (List Char)
  | [] => [piece.reverse]
  | c :: rest =>
      if c = separator then piece.reverse :: piecesFrom separator [] rest
      else piecesFrom separator (c :: piece) rest

/-- The parts of a text between the separators; one more than there are
separators. -/
def pieces (separator : Char) (text : List Char) : List (List Char) := piecesFrom separator [] text

theorem piecesFrom_ne_nil (separator : Char) (piece text : List Char) :
    piecesFrom separator piece text ≠ [] := by
  induction text generalizing piece with
  | nil => exact List.cons_ne_nil _ _
  | cons c rest ih =>
      rw [piecesFrom]
      split
      · exact List.cons_ne_nil _ _
      · exact ih _

theorem intercalate_piecesFrom (separator : Char) (piece text : List Char) :
    [separator].intercalate (piecesFrom separator piece text) = piece.reverse ++ text := by
  induction text generalizing piece with
  | nil => simp [piecesFrom, List.intercalate]
  | cons c rest ih =>
      rw [piecesFrom]
      split
      · rename_i atSeparator
        obtain ⟨next, others, cut⟩ :=
          List.exists_cons_of_ne_nil (piecesFrom_ne_nil separator [] rest)
        have later := ih []
        rw [cut] at later ⊢
        rw [atSeparator]
        simpa [List.intercalate] using later
      · rw [ih]
        simp

/-- Putting the separators back gives the text. -/
theorem intercalate_pieces (separator : Char) (text : List Char) :
    [separator].intercalate (pieces separator text) = text :=
  intercalate_piecesFrom separator [] text

/-- The parts of a string between the separators. -/
def stringPieces (separator : Char) (text : String) : List String :=
  (pieces separator text.toList).map String.ofList

end TagCheck
