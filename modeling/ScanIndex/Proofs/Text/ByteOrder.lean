import Mathlib.Data.String.Basic
import ScanIndex.Proofs.Text.Utf8

/-!
# Texts in the order of their bytes

The bytes of two characters first differ where those of the lesser character are less
(`utf8EncodeChar_append_lt`), so texts are in the order of their bytes (`encode_lt_encode`).
-/

namespace ScanIndex.Utf8

/-- Whatever follows, the bytes of a lesser character come first. -/
theorem utf8EncodeChar_append_lt {c d : Char} (h : c < d) (xs ys : List UInt8) :
  String.utf8EncodeChar c ++ xs < String.utf8EncodeChar d ++ ys
  := by
  have hlt : c.val.toNat < d.val.toNat := h
  have hd : d.val.toNat < 1114112 := by
    rcases d.valid with hvalid | hvalid
    all_goals omega
  rw [String.utf8EncodeChar, String.utf8EncodeChar]
  generalize c.val.toNat = v at hlt
  generalize d.val.toNat = w at hlt hd
  have hdigits : v / 4096 < w / 4096 ∨ v / 4096 = w / 4096 := by omega
  split_ifs
  all_goals
    simp only [List.cons_append, List.nil_append, List.cons_lt_cons_iff]
    simp only [UInt8.lt_iff_toNat_lt, ← UInt8.toNat_inj, UInt8.toNat_ofNat']
    rcases hdigits with hdigits | hdigits
    all_goals omega

/-- The bytes of texts are in the order of their characters. -/
theorem flatMap_utf8EncodeChar_lt {cs ds : List Char} (h : cs < ds) :
  cs.flatMap String.utf8EncodeChar < ds.flatMap String.utf8EncodeChar
  := by
  induction cs generalizing ds with
  | nil =>
    cases ds with
    | nil => exact absurd h (List.lt_irrefl [])
    | cons d ds =>
      rw [List.flatMap_cons, List.flatMap_nil]
      cases hd : String.utf8EncodeChar d with
      | nil => exact absurd hd (by fun_cases String.utf8EncodeChar d <;> simp)
      | cons b bs => apply List.nil_lt_cons
  | cons c cs ih =>
    cases ds with
    | nil => exact absurd h (List.not_lt_nil _)
    | cons d ds =>
      rw [List.flatMap_cons, List.flatMap_cons]
      rcases List.cons_lt_cons_iff.1 h with hc | ⟨rfl, hcs⟩
      · apply utf8EncodeChar_append_lt hc
      · apply List.append_left_lt (ih hcs)

/-- Texts in order have their bytes in order. -/
theorem encode_lt_encode {s t : String} (h : s < t) :
  encode s < encode t
  := by
  rw [encode_eq_flatMap, encode_eq_flatMap]
  apply flatMap_utf8EncodeChar_lt (String.lt_iff_toList_lt.1 h)

theorem encode_lt_encode_iff {s t : String} :
  encode s < encode t ↔ s < t
  := by
  constructor
  · intro h
    by_contra hnot
    rcases (not_lt.1 hnot).eq_or_lt with rfl | hlt
    · exact List.lt_irrefl _ h
    · exact List.lt_irrefl _ (List.lt_trans h (encode_lt_encode hlt))
  · exact encode_lt_encode

end ScanIndex.Utf8
