/-
# What tokens reach

Whether tokens match a text can be said token by token: the first of them passes a piece of the
text, and the others match what is left (`reaches_literal_iff`, `reaches_anyBytes_iff`,
`reaches_leadingFolders_iff`).

Tokens are matched byte by byte, so a star could in principle pass a part of a character. It
cannot where what follows begins with the first byte of a character or is nothing: before such
a byte a text can only be cut between two characters (`exists_cut`). A literal behind the star
then meets a whole character, and two characters that begin alike are the same
(`eq_of_charBytes_append`).
-/

import TagCheck.Proofs.GlobMarks
import TagCheck.Proofs.NameOrder

namespace TagCheck

/-! ## The bytes of a text -/

namespace Byte

theorem toList_loop (bytes : ByteArray) (i : Nat) (read : List UInt8) :
    ByteArray.toList.loop bytes i read = read.reverse ++ bytes.data.toList.drop i := by
  fun_induction ByteArray.toList.loop bytes i read with
  | case1 i read inside ih =>
      have next : bytes.data.toList.drop i = bytes.get! i :: bytes.data.toList.drop (i + 1) := by
        rw [List.drop_eq_getElem_cons (by simpa using inside)]
        simp [ByteArray.get!, inside]
      rw [ih, next, List.reverse_cons, List.append_assoc]
      rfl
  | case2 i read outside =>
      rw [List.drop_eq_nil_of_le (by simpa using outside), List.append_nil]

theorem toList_toUTF8 (s : String) : s.toUTF8.toList = s.toList.flatMap String.utf8EncodeChar := by
  rw [← letters_eq, ByteArray.toList, toList_loop]
  rfl

end Byte

theorem charBytes_eq (c : Char) : charBytes c = String.utf8EncodeChar c := by
  rw [charBytes, Byte.toList_toUTF8, String.toList_singleton, List.flatMap_singleton]

theorem charBytes_ne_nil (c : Char) : charBytes c ≠ [] := by
  rw [charBytes_eq]
  exact String.utf8EncodeChar_ne_nil

/-! ## Characters in bytes -/

section Characters

variable {c d : Char} {x y : List UInt8}

/-- No character is written as the front of another. -/
theorem eq_of_charBytes_append (same : charBytes c ++ x = charBytes d ++ y) : c = d ∧ x = y := by
  have alike : c = d := by
    rw [charBytes_eq, charBytes_eq] at same
    apply Char.le_antisymm
    · apply Char.not_lt.mp
      intro less
      exact List.lt_irrefl _ (same ▸ utf8EncodeChar_lt less y x)
    · apply Char.not_lt.mp
      intro less
      exact List.lt_irrefl _ (same ▸ utf8EncodeChar_lt less x y)
  subst alike
  exact ⟨rfl, List.append_cancel_left same⟩

/-- The first byte of a character shows that it is the first, and no other does. -/
theorem eq_nil_of_charBytes {b : UInt8} (whole : charBytes c = x ++ b :: y)
    (first : b.IsUTF8FirstByte) : x = [] := by
  rw [charBytes_eq] at whole
  have inside : x.length < (String.utf8EncodeChar c).length := by
    rw [whole, List.length_append, List.length_cons]
    omega
  have there : (String.utf8EncodeChar c)[x.length] = b := by
    simp only [whole, List.getElem_append_right (Nat.le_refl _), Nat.sub_self,
      List.getElem_cons_zero]
  have begins : (String.utf8EncodeChar c)[x.length].IsUTF8FirstByte := by rwa [there]
  exact List.length_eq_zero_iff.mp (UInt8.isUTF8FirstByte_getElem_utf8EncodeChar.mp begins)

theorem exists_charBytes_eq_cons (c : Char) :
    ∃ b more, charBytes c = b :: more ∧ b.IsUTF8FirstByte := by
  obtain ⟨b, more, bytes⟩ := List.exists_cons_of_ne_nil (charBytes_ne_nil c)
  refine ⟨b, more, bytes, ?_⟩
  rw [charBytes_eq] at bytes
  have inside : 0 < (String.utf8EncodeChar c).length := by
    rw [bytes]
    exact Nat.succ_pos _
  have first : (String.utf8EncodeChar c)[0].IsUTF8FirstByte :=
    UInt8.isUTF8FirstByte_getElem_utf8EncodeChar.mpr rfl
  simpa only [bytes, List.getElem_cons_zero] using first

/-- Before a byte that begins a character a text is cut between two characters. -/
theorem exists_cut {text : List Char} {gap more : List UInt8} {b : UInt8}
    (cut : text.flatMap charBytes = gap ++ b :: more) (first : b.IsUTF8FirstByte) :
    ∃ front back, text = front ++ back ∧ b :: more = back.flatMap charBytes := by
  induction text generalizing gap with
  | nil =>
      rw [List.flatMap_nil] at cut
      exact absurd cut.symm (List.append_ne_nil_of_right_ne_nil _ (List.cons_ne_nil _ _))
  | cons c text ih =>
      rw [List.flatMap_cons, List.append_eq_append_iff] at cut
      rcases cut with ⟨passed, rfl, later⟩ | ⟨tail, inside, later⟩
      · obtain ⟨front, back, rfl, behind⟩ := ih later
        exact ⟨c :: front, back, rfl, behind⟩
      · cases tail with
        | nil => exact ⟨[c], text, rfl, later⟩
        | cons x tail =>
            rw [List.cons_append] at later
            obtain ⟨rfl, behind⟩ := List.cons.inj later
            have nothing : gap = [] := eq_nil_of_charBytes inside first
            subst nothing
            refine ⟨[], c :: text, rfl, ?_⟩
            rw [List.flatMap_cons, inside, behind]
            rfl

end Characters

/-! ## Marks that reach the end -/

namespace Marks

theorem length_spreadFrom (marked : Bool) (marks : Marks) :
    (spreadFrom marked marks).length = marks.length := by
  induction marks generalizing marked with
  | nil => rfl
  | cons mark marks ih => exact congrArg Nat.succ (ih _)

/-- There is a mark for each place of the text. -/
def Fits (text : Text) (marks : Marks) : Prop := marks.length = text.length + 1

theorem Fits.cons {text : Text} {marks : Marks} (fits : Fits text marks) (b : UInt8)
    (mark : Bool) : Fits (b :: text) (mark :: marks) :=
  congrArg Nat.succ fits

theorem fits_start (text : Text) : Fits text (start text) := by
  rw [Fits, start, List.length_cons, List.length_map]

theorem keeps_fits (text : Text) :
    Keeps (fun _ : Unit => text) fun marks => Fits text (marks ()) where
  none := by simp [Fits, none]
  either first second holds holds' := by
    rw [Fits] at holds holds' ⊢
    simp [either, holds, holds']
  across test marks holds := by
    rw [Fits] at holds ⊢
    simp [across, holds]
  spread marks holds := (length_spreadFrom false _).trans holds

theorem reachesEnd_cons (mark : Bool) {marks : Marks} (filled : marks ≠ []) :
    reachesEnd (mark :: marks) = reachesEnd marks := by
  obtain ⟨next, marks, rfl⟩ := List.exists_cons_of_ne_nil filled
  rw [reachesEnd, List.getLast?_cons_cons]
  rfl

theorem reachesEnd_none (text : Text) : reachesEnd (none text) = false := by
  induction text with
  | nil => rfl
  | cons b text ih => exact (reachesEnd_cons false (List.cons_ne_nil _ _)).trans ih

theorem reachesEnd_either {first second : Marks} (same : first.length = second.length) :
    reachesEnd (either first second) = (reachesEnd first || reachesEnd second) := by
  induction first generalizing second with
  | nil =>
      rw [List.length_eq_zero_iff.mp same.symm]
      rfl
  | cons mark first ih =>
      cases second with
      | nil => cases same
      | cons mark' second =>
          have lengths : first.length = second.length := Nat.succ.inj same
          cases first with
          | nil =>
              rw [List.length_eq_zero_iff.mp lengths.symm]
              cases mark <;> cases mark' <;> rfl
          | cons next first =>
              cases second with
              | nil => cases lengths
              | cons next' second =>
                  rw [reachesEnd_cons mark (List.cons_ne_nil _ _),
                    reachesEnd_cons mark' (List.cons_ne_nil _ _), ← ih lengths]
                  exact reachesEnd_cons _ (List.cons_ne_nil _ _)

end Marks

namespace GlobToken

open Marks

/-- Whether tokens one after the other match a text. -/
def reaches (tokens : List GlobToken) (text : Text) : Bool :=
  (passAll text (Marks.start text) tokens).reachesEnd

section Fitting

variable {text : Text} {marks first second : Marks}

theorem fits_passAll (fits : Fits text marks) (tokens : List GlobToken) :
    Fits text (passAll text marks tokens) :=
  passAll_keeps (keeps_fits text) tokens (fun _ => marks) fits

/-- What stands in front of all marks does not matter to whether the end is reached. -/
theorem reachesEnd_passAll_cons (fits : Fits text marks) (b : UInt8) (tokens : List GlobToken) :
    reachesEnd (passAll (b :: text) (false :: marks) tokens) =
      reachesEnd (passAll text marks tokens) := by
  have filled : passAll text marks tokens ≠ [] := by
    apply List.ne_nil_of_length_pos
    rw [fits_passAll fits tokens]
    exact Nat.succ_pos _
  rw [passAll_cons, reachesEnd_cons false filled]

theorem reachesEnd_passAll_either (fits : Fits text first) (fits' : Fits text second)
    (tokens : List GlobToken) :
    reachesEnd (passAll text (either first second) tokens) =
      (reachesEnd (passAll text first tokens) || reachesEnd (passAll text second tokens)) := by
  rw [passAll_either, reachesEnd_either]
  exact (fits_passAll fits tokens).trans (fits_passAll fits' tokens).symm

end Fitting

/-- Without tokens only the empty text is matched. -/
theorem reaches_nil_iff {text : Text} : reaches [] text = true ↔ text = [] := by
  cases text with
  | nil => exact iff_of_true rfl rfl
  | cons b text =>
      have unmarked : reaches [] (b :: text) = false :=
        (reachesEnd_cons true (List.cons_ne_nil _ _)).trans (reachesEnd_none text)
      rw [unmarked]
      exact iff_of_false Bool.false_ne_true (List.cons_ne_nil _ _)

/-! ## Stars in front -/

theorem either_blank (text : Text) (marked : UInt8 → Bool) :
    either (text.map fun _ => false) (text.map marked) = text.map marked := by
  rw [either, List.zipWith_map, List.zipWith_self]
  simp

theorem spread_start (text : Text) :
    spread (Marks.start text) = true :: text.map fun _ => true := by
  apply congrArg (List.cons true)
  induction text with
  | nil => rfl
  | cons b text ih => exact congrArg (List.cons true) ih

theorem spread_start_cons (b : UInt8) (text : Text) :
    spread (Marks.start (b :: text)) =
      either (Marks.start (b :: text)) (false :: spread (Marks.start text)) := by
  rw [spread_start, spread_start]
  exact congrArg (fun marks => true :: true :: marks) (either_blank text fun _ => true).symm

/-- A star passes a byte, or nothing more. -/
theorem reaches_anyBytes (b : UInt8) (text : Text) (rest : List GlobToken) :
    reaches (.anyBytes :: rest) (b :: text) =
      (reaches rest (b :: text) || reaches (.anyBytes :: rest) text) := by
  have fits : Fits text (spread (Marks.start text)) :=
    (keeps_fits text).spread (fun _ => Marks.start text) (fits_start text)
  change reachesEnd (passAll (b :: text) (spread (Marks.start (b :: text))) rest) = _
  rw [spread_start_cons, reachesEnd_passAll_either (fits_start _) (fits.cons b false),
    reachesEnd_passAll_cons fits]
  rfl

/-- A star passes any bytes. -/
theorem reaches_anyBytes_iff {text : Text} {rest : List GlobToken} :
    reaches (.anyBytes :: rest) text = true ↔
      ∃ gap ahead, text = gap ++ ahead ∧ reaches rest ahead = true := by
  induction text with
  | nil =>
      have same : reaches (.anyBytes :: rest) [] = reaches rest [] := rfl
      rw [same]
      constructor
      · exact fun reached => ⟨[], [], rfl, reached⟩
      · rintro ⟨gap, ahead, nothing, reached⟩
        rw [(List.append_eq_nil_iff.mp nothing.symm).2] at reached
        exact reached
  | cons b text ih =>
      rw [reaches_anyBytes, Bool.or_eq_true, ih]
      constructor
      · rintro (now | ⟨gap, ahead, rfl, later⟩)
        · exact ⟨[], b :: text, rfl, now⟩
        · exact ⟨b :: gap, ahead, rfl, later⟩
      · rintro ⟨gap, ahead, cut, reached⟩
        cases gap with
        | nil =>
            rw [List.nil_append] at cut
            exact .inl (cut ▸ reached)
        | cons x gap => exact .inr ⟨gap, ahead, (List.cons.inj cut).2, reached⟩

/-- The first place, and the places behind slashes. -/
theorem pass_start_leadingFolders (text : Text) :
    pass text (Marks.start text) .leadingFolders =
      either (Marks.start text) (false :: text.map (· == Byte.slash)) := by
  apply congrArg (either (Marks.start text))
  rw [spread_start]
  apply congrArg (List.cons false)
  induction text with
  | nil => rfl
  | cons b text ih => exact congrArg (List.cons (b == Byte.slash)) ih

theorem exists_behindSlash_cons {b : UInt8} {text : Text} {P : Text → Prop} :
    (∃ gap ahead, b :: text = gap ++ Byte.slash :: ahead ∧ P ahead) ↔
      (b = Byte.slash ∧ P text) ∨ ∃ gap ahead, text = gap ++ Byte.slash :: ahead ∧ P ahead := by
  constructor
  · rintro ⟨gap, ahead, cut, behind⟩
    cases gap with
    | nil =>
        obtain ⟨rfl, rfl⟩ := List.cons.inj cut
        exact .inl ⟨rfl, behind⟩
    | cons x gap => exact .inr ⟨gap, ahead, (List.cons.inj cut).2, behind⟩
  · rintro (⟨rfl, behind⟩ | ⟨gap, ahead, rfl, behind⟩)
    · exact ⟨[], text, rfl, behind⟩
    · exact ⟨b :: gap, ahead, rfl, behind⟩

/-- From the places behind slashes what is left is matched. -/
theorem reachesEnd_behindSlash_iff {text : Text} {rest : List GlobToken} :
    reachesEnd (passAll text (false :: text.map (· == Byte.slash)) rest) = true ↔
      ∃ gap ahead, text = gap ++ Byte.slash :: ahead ∧ reaches rest ahead = true := by
  induction text with
  | nil =>
      have unmarked : reachesEnd (passAll [] (Marks.none []) rest) = false := by
        rw [passAll_none, reachesEnd_none]
      refine iff_of_false (Bool.eq_false_iff.mp unmarked) ?_
      rintro ⟨gap, ahead, nothing, _⟩
      exact List.append_ne_nil_of_right_ne_nil gap (List.cons_ne_nil _ _) nothing.symm
  | cons b text ih =>
      have fits (mark : Bool) : Fits text (mark :: text.map (· == Byte.slash)) := by
        rw [Fits, List.length_cons, List.length_map]
      rw [List.map_cons, reachesEnd_passAll_cons (fits _), exists_behindSlash_cons]
      by_cases slash : b = Byte.slash
      · have places : (true :: text.map (· == Byte.slash) : Marks) =
            either (Marks.start text) (false :: text.map (· == Byte.slash)) :=
          congrArg (List.cons true) (either_blank text _).symm
        rw [beq_iff_eq.mpr slash, places, reachesEnd_passAll_either (fits_start _) (fits false),
          Bool.or_eq_true, ih, and_iff_right slash]
        rfl
      · rw [beq_eq_false_iff_ne.mpr slash, ih, or_iff_right fun here => slash here.1]

/-- Two stars for folders pass nothing, or everything up to some slash and the slash. -/
theorem reaches_leadingFolders_iff {text : Text} {rest : List GlobToken} :
    reaches (.leadingFolders :: rest) text = true ↔
      reaches rest text = true ∨
        ∃ gap ahead, text = gap ++ Byte.slash :: ahead ∧ reaches rest ahead = true := by
  have fits : Fits text (false :: text.map (· == Byte.slash)) := by
    rw [Fits, List.length_cons, List.length_map]
  change reachesEnd (passAll text (pass text (Marks.start text) .leadingFolders) rest) = true ↔ _
  rw [pass_start_leadingFolders, reachesEnd_passAll_either (fits_start _) fits, Bool.or_eq_true,
    reachesEnd_behindSlash_iff]
  rfl

/-! ## Literals in front -/

/-- From the first place one byte can be passed. -/
theorem across_start (b x : UInt8) (text : Text) :
    across (· == b) (x :: text) (Marks.start (x :: text)) =
      false :: (x == b) :: text.map fun _ => false := by
  have later := across_none (· == b) text
  exact congrArg (fun marks => false :: (x == b) :: marks) (List.cons_eq_cons.mp later).2

/-- A byte that a literal asks for is passed, and what follows it is matched as if it began the
text. -/
theorem reachesEnd_acrossAll_cons (b : UInt8) (bytes : List UInt8) (text : Text)
    (rest : List GlobToken) :
    reachesEnd (passAll (b :: text)
        (acrossAll (b :: bytes) (b :: text) (Marks.start (b :: text))) rest) =
      reachesEnd (passAll text (acrossAll bytes text (Marks.start text)) rest) := by
  have left : acrossAll bytes (b :: text) (false :: Marks.start text) =
      false :: acrossAll bytes text (Marks.start text) :=
    (keeps_cons b text).acrossAll bytes
      (fun behind => bif behind then Marks.start text else false :: Marks.start text) rfl
  have fits : Fits text (acrossAll bytes text (Marks.start text)) :=
    (keeps_fits text).acrossAll bytes (fun _ => Marks.start text) (fits_start text)
  change reachesEnd (passAll (b :: text)
    (acrossAll bytes (b :: text) (across (· == b) (b :: text) (Marks.start (b :: text)))) rest) = _
  rw [across_start, beq_self_eq_true]
  change reachesEnd (passAll (b :: text)
    (acrossAll bytes (b :: text) (false :: Marks.start text)) rest) = _
  rw [left, reachesEnd_passAll_cons fits]

/-- Bytes that a literal asks for stand at the front of the text. -/
theorem reaches_of_acrossAll {bytes : List UInt8} {text : Text} {rest : List GlobToken}
    (reached : reachesEnd (passAll text (acrossAll bytes text (Marks.start text)) rest) = true) :
    ∃ ahead, text = bytes ++ ahead ∧ reaches rest ahead = true := by
  induction bytes generalizing text with
  | nil => exact ⟨text, rfl, reached⟩
  | cons b bytes ih =>
      have missed (nothing : across (· == b) text (Marks.start text) = Marks.none text) :
          False := by
        have left : acrossAll bytes text (Marks.none text) = Marks.none text :=
          (keeps_none text).acrossAll bytes (fun _ => Marks.none text) rfl
        change reachesEnd (passAll text (acrossAll bytes text
          (across (· == b) text (Marks.start text))) rest) = true at reached
        rw [nothing, left, passAll_none, reachesEnd_none] at reached
        cases reached
      cases text with
      | nil => exact (missed rfl).elim
      | cons x text =>
          by_cases same : x = b
          · subst same
            rw [reachesEnd_acrossAll_cons] at reached
            obtain ⟨ahead, whole, reached⟩ := ih reached
            exact ⟨ahead, congrArg (List.cons x) whole, reached⟩
          · have next := across_start b x text
            rw [beq_eq_false_iff_ne.mpr same] at next
            exact (missed next).elim

theorem reachesEnd_acrossAll (bytes : List UInt8) (ahead : Text) (rest : List GlobToken) :
    reachesEnd (passAll (bytes ++ ahead)
      (acrossAll bytes (bytes ++ ahead) (Marks.start (bytes ++ ahead))) rest) =
        reaches rest ahead := by
  induction bytes with
  | nil => rfl
  | cons b bytes ih => exact (reachesEnd_acrossAll_cons b bytes (bytes ++ ahead) rest).trans ih

/-- A literal passes the bytes of its character. -/
theorem reaches_literal_iff {c : Char} {text : Text} {rest : List GlobToken} :
    reaches (.literal c :: rest) text = true ↔
      ∃ ahead, text = charBytes c ++ ahead ∧ reaches rest ahead = true := by
  constructor
  · exact reaches_of_acrossAll
  · rintro ⟨ahead, rfl, reached⟩
    rw [← reached]
    exact reachesEnd_acrossAll (charBytes c) ahead rest

end GlobToken

end TagCheck
