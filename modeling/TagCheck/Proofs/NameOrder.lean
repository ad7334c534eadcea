/-
# The order of names

Strings are compared character by character, and what is stored on a disk byte by byte.
UTF-8 was made so that the two agree. Of two characters that need the same number of bytes,
the bytes are the digits of their codes in base 64 (`Ascending.digit`); where one needs more
bytes than the other, its first byte is the greater one. In both cases the bytes differ at a
place that both have, so that what follows does not matter (`utf8EncodeChar_lt`).
-/

import TagCheck.Proofs.TagText

namespace TagCheck

/-- Numbers below the bound are written in ascending order, whatever follows them. -/
def Ascending (bound : Nat) (written : Nat → List UInt8) : Prop :=
  ∀ m n, m < n → n < bound → ∀ x y, written m ++ x < written n ++ y

theorem cons_lt_cons_of_lt {m n : Nat} (less : m < n) (small : n < 0x100) (x y : List UInt8) :
    UInt8.ofNat m :: x < UInt8.ofNat n :: y := by
  apply List.cons_lt_cons_iff.mpr
  left
  rw [UInt8.lt_iff_toNat_lt, UInt8.toNat_ofNat_of_lt' small,
    UInt8.toNat_ofNat_of_lt' (Nat.lt_trans less small)]
  exact less

namespace Ascending

/-- The digit in front. -/
theorem lead (size base : Nat) (fits : base + size ≤ 0x100) :
    Ascending size fun v => [UInt8.ofNat (v % size + base)] := by
  intro m n less below x y
  simp only [Nat.mod_eq_of_lt below, Nat.mod_eq_of_lt (Nat.lt_trans less below)]
  exact cons_lt_cons_of_lt (Nat.add_lt_add_right less base) (by omega) x y

/-- A further digit. -/
theorem digit {bound : Nat} {written : Nat → List UInt8} (ascending : Ascending bound written) :
    Ascending (bound * 64) fun v => written (v / 64) ++ [UInt8.ofNat (v % 0x40 + 0x80)] := by
  intro m n less below x y
  simp only [List.append_assoc]
  by_cases upper : m / 64 < n / 64
  · exact ascending _ _ upper (by omega) _ _
  · have same : m / 64 = n / 64 := by omega
    rw [same]
    apply List.append_left_lt
    exact cons_lt_cons_of_lt (by omega) (by omega) x y

theorem oneByte : Ascending 0x80 fun v => [UInt8.ofNat v] := by
  intro m n less below x y
  exact cons_lt_cons_of_lt less (by omega) x y

theorem twoBytes : Ascending 0x800 fun v =>
    [UInt8.ofNat (v / 64 % 0x20 + 0xc0), UInt8.ofNat (v % 0x40 + 0x80)] :=
  (lead 0x20 0xc0 (by decide)).digit

theorem threeBytes : Ascending 0x10000 fun v =>
    [UInt8.ofNat (v / 4096 % 0x10 + 0xe0), UInt8.ofNat (v / 64 % 0x40 + 0x80),
      UInt8.ofNat (v % 0x40 + 0x80)] := by
  have ascending := (lead 0x10 0xe0 (by decide)).digit.digit
  simp only [Nat.div_div_eq_div_mul] at ascending
  exact ascending

theorem fourBytes : Ascending 0x200000 fun v =>
    [UInt8.ofNat (v / 262144 % 0x08 + 0xf0), UInt8.ofNat (v / 4096 % 0x40 + 0x80),
      UInt8.ofNat (v / 64 % 0x40 + 0x80), UInt8.ofNat (v % 0x40 + 0x80)] := by
  have ascending := (lead 0x08 0xf0 (by decide)).digit.digit.digit
  simp only [Nat.div_div_eq_div_mul] at ascending
  exact ascending

/-- Up to some number there is a shorter form, which begins with a lower byte. -/
theorem orLonger {last bound : Nat} {short long : Nat → List UInt8}
    (shorter : Ascending (last + 1) short) (longer : Ascending bound long)
    (across : ∀ m n, m ≤ last → last < n → n < bound → ∀ x y, short m ++ x < long n ++ y) :
    Ascending bound fun v => if v ≤ last then short v else long v := by
  intro m n less below x y
  by_cases second : n ≤ last
  · have first : m ≤ last := Nat.le_trans (Nat.le_of_lt less) second
    simp only [if_pos first, if_pos second]
    exact shorter m n less (Nat.lt_succ_of_le second) x y
  · by_cases first : m ≤ last
    · simp only [if_pos first, if_neg second]
      exact across m n first (Nat.lt_of_not_le second) below x y
    · simp only [if_neg first, if_neg second]
      exact longer m n less below x y

end Ascending

/-- The bytes of characters are in the order of the characters. -/
theorem utf8EncodeChar_lt {c d : Char} (less : c < d) (x y : List UInt8) :
    String.utf8EncodeChar c ++ x < String.utf8EncodeChar d ++ y := by
  have valid : d.val.toNat < 0x200000 := by
    rcases d.valid with low | ⟨_, high⟩
    · omega
    · omega
  have fromThree := Ascending.threeBytes.orLonger Ascending.fourBytes (by
    intro m n first second below x y
    exact cons_lt_cons_of_lt (by omega) (by omega) _ _)
  have fromTwo := Ascending.twoBytes.orLonger fromThree (by
    intro m n first second below x y
    split
    · exact cons_lt_cons_of_lt (by omega) (by omega) _ _
    · exact cons_lt_cons_of_lt (by omega) (by omega) _ _)
  have fromOne := Ascending.oneByte.orLonger fromTwo (by
    intro m n first second below x y
    split
    · exact cons_lt_cons_of_lt (by omega) (by omega) _ _
    · split
      · exact cons_lt_cons_of_lt (by omega) (by omega) _ _
      · exact cons_lt_cons_of_lt (by omega) (by omega) _ _)
  exact fromOne _ _ less valid x y

theorem flatMap_utf8EncodeChar_lt {cs ds : List Char} (less : cs < ds) :
    cs.flatMap String.utf8EncodeChar < ds.flatMap String.utf8EncodeChar := by
  induction less with
  | nil =>
      rename_i d ds
      obtain ⟨first, others, encoded⟩ :=
        List.exists_cons_of_ne_nil (String.utf8EncodeChar_ne_nil (c := d))
      rw [List.flatMap_cons, encoded]
      exact List.nil_lt_cons first _
  | rel less => exact utf8EncodeChar_lt less _ _
  | cons _ ih => exact List.append_left_lt ih

theorem Byte.letters_eq (s : String) :
    letters s = s.toList.flatMap String.utf8EncodeChar := by
  have stored : s.toUTF8 = s.toList.utf8Encode := by
    rw [String.toUTF8, ← String.toByteArray_ofList, String.ofList_toList]
  rw [letters, stored, List.utf8Encode, List.data_toByteArray]

/-- Strings are ordered as their bytes are. -/
theorem Byte.letters_lt {s t : String} (less : s < t) : letters s < letters t := by
  rw [letters_eq, letters_eq]
  exact flatMap_utf8EncodeChar_lt less

end TagCheck
