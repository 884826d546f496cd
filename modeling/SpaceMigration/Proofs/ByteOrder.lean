import Mathlib.Data.List.Lex
import Mathlib.Tactic.SplitIfs

/-!
# The order of texts is the order of their bytes

Maps from strings are ordered by code point, and a database compares the bytes of a text in UTF-8.
The two orders agree: UTF-8 puts the leading digits of a character first, and the first byte of a
longer encoding is larger than that of a shorter one.

## Main results

* `Text.bytes_lt_bytes` — a smaller text has smaller bytes
* `Text.bytes_lt_bytes_iff` — and the other way round
-/

namespace SpaceMigration.Text

/-- The bytes of a text in UTF-8. -/
def bytes (s : String) : List UInt8 :=
  s.toUTF8.data.toList

theorem bytes_eq_flatMap (s : String) : bytes s = s.toList.flatMap String.utf8EncodeChar := by
  conv_lhs => rw [← String.ofList_toList (s := s)]
  rw [bytes, String.toUTF8_eq_toByteArray, String.toByteArray_ofList, List.utf8Encode,
    List.toList_data_toByteArray]

theorem ofNat_cons_lt_ofNat_cons {v w : Nat} (hv : v < 256) (hw : w < 256) (xs ys : List UInt8) :
    UInt8.ofNat v :: xs < UInt8.ofNat w :: ys ↔ v < w ∨ v = w ∧ xs < ys := by
  rw [List.cons_lt_cons_iff, UInt8.lt_iff_toNat_lt, ← UInt8.toNat_inj, UInt8.toNat_ofNat',
    UInt8.toNat_ofNat', Nat.mod_eq_of_lt hv, Nat.mod_eq_of_lt hw]

/-- The smaller of two numbers has the smaller digit at the first of the last four places to the
base 64 at which they differ. -/
theorem digits_lt_of_lt {v w : Nat} (h : v < w) :
    v / 64 / 64 / 64 < w / 64 / 64 / 64 ∨
      v / 64 / 64 / 64 = w / 64 / 64 / 64 ∧ v / 64 / 64 % 64 < w / 64 / 64 % 64 ∨
      v / 64 / 64 = w / 64 / 64 ∧ v / 64 % 64 < w / 64 % 64 ∨
      v / 64 = w / 64 ∧ v % 64 < w % 64 := by
  omega

/-- Characters are compared before what follows them. -/
theorem utf8EncodeChar_append_lt {c d : Char} (h : c < d) (xs ys : List UInt8) :
    String.utf8EncodeChar c ++ xs < String.utf8EncodeChar d ++ ys := by
  have hlt : c.val.toNat < d.val.toNat := h
  have hd : d.val.toNat < 0x110000 := by
    have hvalid := d.valid
    rw [UInt32.isValidChar, Nat.isValidChar] at hvalid
    omega
  simp only [String.utf8EncodeChar]
  generalize c.val.toNat = v at *
  generalize d.val.toNat = w at *
  -- The bytes of an encoding are digits to the base 64, taken off the end one after another.
  have hdigits (n : Nat) : n / 4096 = n / 64 / 64 ∧ n / 262144 = n / 64 / 64 / 64 := by
    omega
  obtain ⟨hv₁, hv₂⟩ := hdigits v
  obtain ⟨hw₁, hw₂⟩ := hdigits w
  obtain hlt | hlt | hlt | hlt := digits_lt_of_lt hlt
  all_goals
    split_ifs
    all_goals simp (disch := omega) only [List.cons_append, ofNat_cons_lt_ofNat_cons]; omega

theorem flatMap_utf8EncodeChar_lt {cs ds : List Char} (h : cs < ds) :
    cs.flatMap String.utf8EncodeChar < ds.flatMap String.utf8EncodeChar := by
  induction h with
  | @nil d ds =>
    rw [List.flatMap_nil, List.flatMap_cons]
    obtain ⟨byte, bytes, hbytes⟩ :=
      List.exists_cons_of_ne_nil (String.utf8EncodeChar_ne_nil (c := d))
    rw [hbytes]
    exact List.nil_lt_cons _ _
  | @rel c cs d ds h =>
    rw [List.flatMap_cons, List.flatMap_cons]
    exact utf8EncodeChar_append_lt h _ _
  | @cons c cs ds _ ih =>
    rw [List.flatMap_cons, List.flatMap_cons]
    exact List.append_left_lt ih

/-- **A smaller text has smaller bytes.** -/
theorem bytes_lt_bytes {a b : String} (h : a < b) : bytes a < bytes b := by
  rw [bytes_eq_flatMap, bytes_eq_flatMap]
  exact flatMap_utf8EncodeChar_lt h

/-- Bytes and texts have the same order. -/
theorem bytes_lt_bytes_iff {a b : String} : bytes a < bytes b ↔ a < b := by
  refine ⟨fun h => ?_, bytes_lt_bytes⟩
  refine Decidable.byContradiction fun hle => ?_
  by_cases hlt : b < a
  · exact List.lt_asymm h (bytes_lt_bytes hlt)
  · rw [String.le_antisymm hlt hle] at h
    exact List.lt_irrefl _ h

end SpaceMigration.Text
