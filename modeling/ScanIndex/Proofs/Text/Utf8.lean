import Mathlib.Tactic.SplitIfs
import ScanIndex.Text.Utf8

/-!
# The bytes of texts

The bytes of a text are those of its characters, one after the other (`Utf8.encode_eq_flatMap`).
Different texts have different bytes (`Utf8.encode_inj`), and only the character NUL has a byte that
is zero (`Utf8.zero_mem_encode_iff`).
-/

namespace ScanIndex.Utf8

theorem toList_loop_eq (bs : ByteArray) (i : Nat) (r : List UInt8) :
  ByteArray.toList.loop bs i r = r.reverse ++ bs.data.toList.drop i
  := by
  fun_induction ByteArray.toList.loop bs i r with
  | case1 i r hi ih =>
    have hi' : i < bs.data.toList.length := hi
    have hget : bs.get! i = bs.data.toList[i] := getElem!_pos bs.data i hi
    rw [ih, List.drop_eq_getElem_cons hi', List.reverse_cons, List.append_assoc, hget]
    rfl
  | case2 i r hi =>
    have hi' : bs.data.toList.length ≤ i := Nat.not_lt.1 hi
    rw [List.drop_eq_nil_of_le hi', List.append_nil]

theorem encode_eq_toList (s : String) :
  encode s = s.toByteArray.data.toList
  := by
  rw [encode, String.toUTF8_eq_toByteArray, ByteArray.toList, toList_loop_eq]
  rfl

/-- The bytes of a text are those of its characters. -/
theorem encode_eq_flatMap (s : String) :
  encode s = s.toList.flatMap String.utf8EncodeChar
  := by
  rw [encode_eq_toList, ← String.utf8Encode_toList, List.utf8Encode, List.toList_data_toByteArray]

/-- Different texts have different bytes. -/
theorem encode_inj {s t : String} :
  encode s = encode t ↔ s = t
  := by
  rw [encode_eq_toList, encode_eq_toList, Array.toList_inj, ← ByteArray.ext_iff,
    String.toByteArray_inj]

/-- The bytes that are read as a text are its own. -/
theorem decode_eq_ok_iff {bs : List UInt8} {s : String} :
  decode bs = .ok s ↔ encode s = bs
  := by
  rw [decode, String.fromUTF8?, encode_eq_toList]
  constructor
  · intro h
    split at h
    next t ht =>
      cases h
      split at ht
      next =>
        cases ht
        rfl
      next => cases ht
    next => cases h
  · rintro rfl
    rw [dif_pos s.isValidUTF8]
    rfl

/-- A byte below 128 is only in the bytes of the character with its number. -/
theorem mem_utf8EncodeChar_iff {b : UInt8} (hb : b.toNat < 128) (c : Char) :
  b ∈ String.utf8EncodeChar c ↔ c.toNat = b.toNat
  := by
  have hofNat (n : Nat) : b = UInt8.ofNat n ↔ n % 256 = b.toNat := by
    rw [← UInt8.toNat_inj, UInt8.toNat_ofNat', eq_comm]
  rw [String.utf8EncodeChar, Char.toNat]
  split_ifs
  all_goals
    simp only [List.mem_cons, List.not_mem_nil, or_false, hofNat]
    omega

theorem utf8EncodeChar_of_lt {c : Char} (hc : c.toNat < 128) :
  String.utf8EncodeChar c = [UInt8.ofNat c.toNat]
  := by
  apply if_pos
  exact Nat.le_of_lt_succ hc

/-- Only the character NUL has a byte that is zero. -/
theorem zero_mem_encode_iff (s : String) :
  0 ∈ encode s ↔ ∃ c ∈ s.toList, c.toNat = 0
  := by
  have hzero (c : Char) : 0 ∈ String.utf8EncodeChar c ↔ c.toNat = 0 :=
    mem_utf8EncodeChar_iff (by decide) c
  simp only [encode_eq_flatMap, List.mem_flatMap, hzero]

end ScanIndex.Utf8
