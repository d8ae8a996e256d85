import Mathlib.Data.List.Forall2
import ScanIndex.Proofs.Text.Utf8
import ScanIndex.Text.Percent

/-!
# The encoding of forms

In the encoding of forms, a character stands for itself unless it is a percent sign or a plus sign,
or its bytes are written with percent signs and hexadecimal digits; a plus sign stands for a blank
(`FormEncodes`).  Whatever way is taken for each character, the bytes that come out are those of the
text (`formBytes_of_formEncodes`).
-/

namespace ScanIndex

/-- The character is the hexadecimal digit of the given value, in either case. -/
def IsHexDigit (n : Nat) (c : Char) : Prop := c = n.digitChar ∨ c = n.digitChar.toUpper

/-- The characters are a percent sign and the two hexadecimal digits of a byte. -/
inductive WritesByte (b : UInt8) : List Char → Prop
  | digits {c d : Char} (hc : IsHexDigit (b.toNat / 16) c) (hd : IsHexDigit (b.toNat % 16) d) :
    WritesByte b ['%', c, d]

/-- The characters stand for a single one in the encoding of forms. -/
inductive FormEncodesChar (c : Char) : List Char → Prop
  | itself (hpercent : c ≠ '%') (hplus : c ≠ '+') : FormEncodesChar c [c]
  | bytes {pieces : List (List Char)}
    (h : List.Forall₂ WritesByte (String.utf8EncodeChar c) pieces) :
    FormEncodesChar c pieces.flatten
  | blank (h : c = ' ') : FormEncodesChar c ['+']

/-- The second characters stand for the first ones in the encoding of forms. -/
inductive FormEncodes : List Char → List Char → Prop
  | nil : FormEncodes [] []
  | cons {c : Char} {cs piece raw : List Char} (hc : FormEncodesChar c piece)
    (hcs : FormEncodes cs raw) :
    FormEncodes (c :: cs) (piece ++ raw)

/-- The bytes that characters stand for in the encoding of forms. -/
def formBytes (raw : List Char) : List UInt8 :=
  percentDecode (spaced (raw.flatMap String.utf8EncodeChar))

theorem formBytes_toList (raw : String) :
  formBytes raw.toList = percentDecode (spaced (Utf8.encode raw))
  := by
  rw [formBytes, Utf8.encode_eq_flatMap]

section

variable {b : UInt8} {bs : List UInt8} {c : Char} {cs piece raw : List Char}

/-! ### Bytes -/

theorem spaced_append (bs bs' : List UInt8) :
  spaced (bs ++ bs') = spaced bs ++ spaced bs'
  := List.map_append

theorem spaced_of_not_mem (h : 0x2b ∉ bs) :
  spaced bs = bs
  := by
  rw [spaced, List.map_congr_left (g := id), List.map_id]
  intro b hb
  apply if_neg
  rintro rfl
  exact h hb

theorem percentDecode_cons_of_ne (h : b ≠ 0x25) (bs : List UInt8) :
  percentDecode (b :: bs) = b :: percentDecode bs
  := by
  rw [percentDecode.eq_def]
  split
  next heq =>
    cases heq
    exact absurd rfl h
  next heq =>
    cases heq
    rfl
  next heq => cases heq

theorem percentDecode_append_of_not_mem (h : 0x25 ∉ bs) (bs' : List UInt8) :
  percentDecode (bs ++ bs') = bs ++ percentDecode bs'
  := by
  induction bs with
  | nil => rfl
  | cons b bs ih =>
    rw [List.mem_cons, not_or] at h
    rw [List.cons_append, percentDecode_cons_of_ne (Ne.symm h.1), ih h.2, List.cons_append]

theorem percentDecode_of_hexPair? {d e : UInt8} (h : hexPair? d e = some b) (bs : List UInt8) :
  percentDecode (0x25 :: d :: e :: bs) = b :: percentDecode bs
  := by
  rw [percentDecode, h]

/-! ### Hexadecimal digits -/

/-- A hexadecimal digit is one byte, which is read as its value. -/
theorem IsHexDigit.byte {n : Nat} (hn : n < 16) (h : IsHexDigit n c) :
  ∃ d, String.utf8EncodeChar c = [d] ∧ d ≠ 0x2b ∧ hexByte? d = some (UInt8.ofNat n)
  := by
  have hdigits : ∀ i : Fin 16,
      (∃ d, String.utf8EncodeChar i.val.digitChar = [d] ∧ d ≠ 0x2b
        ∧ hexByte? d = some (UInt8.ofNat i))
      ∧ ∃ d, String.utf8EncodeChar i.val.digitChar.toUpper = [d] ∧ d ≠ 0x2b
          ∧ hexByte? d = some (UInt8.ofNat i) := by
    intro i
    constructor
    all_goals
      refine ⟨_, Utf8.utf8EncodeChar_of_lt ?_, ?_⟩
      all_goals
        revert i
        decide
  rcases h with rfl | rfl
  · exact (hdigits ⟨n, hn⟩).1
  · exact (hdigits ⟨n, hn⟩).2

/-- A byte is put together from its two hexadecimal digits. -/
theorem hexPair?_digits {d e : UInt8} (hd : hexByte? d = some (UInt8.ofNat (b.toNat / 16)))
    (he : hexByte? e = some (UInt8.ofNat (b.toNat % 16))) :
  hexPair? d e = some b
  := by
  have hb := b.toNat_lt
  have hsum : UInt8.ofNat (b.toNat / 16) * 16 + UInt8.ofNat (b.toNat % 16) = b := by
    rw [← UInt8.toNat_inj, UInt8.toNat_add, UInt8.toNat_mul, UInt8.toNat_ofNat', UInt8.toNat_ofNat']
    change ((b.toNat / 16 % 256 * 16) % 256 + b.toNat % 16 % 256) % 256 = b.toNat
    omega
  rw [hexPair?, hd, he]
  apply congrArg some hsum

/-! ### Characters and texts -/

theorem formBytes_cons_of_not_mem (hpercent : 0x25 ∉ String.utf8EncodeChar c)
    (hplus : 0x2b ∉ String.utf8EncodeChar c) (raw : List Char) :
  formBytes (c :: raw) = String.utf8EncodeChar c ++ formBytes raw
  := by
  rw [formBytes, List.flatMap_cons, spaced_append, spaced_of_not_mem hplus,
    percentDecode_append_of_not_mem hpercent, formBytes]

theorem WritesByte.formBytes_append (h : WritesByte b piece) (raw : List Char) :
  formBytes (piece ++ raw) = b :: formBytes raw
  := by
  cases h with
  | @digits c d hc hd =>
    obtain ⟨x, hx, hxplus, hxvalue⟩ := hc.byte (Nat.div_lt_of_lt_mul b.toNat_lt)
    obtain ⟨y, hy, hyplus, hyvalue⟩ := hd.byte (Nat.mod_lt _ (by decide))
    have hflat : ('%' :: c :: d :: raw).flatMap String.utf8EncodeChar
        = 0x25 :: x :: y :: raw.flatMap String.utf8EncodeChar := by
      rw [List.flatMap_cons, List.flatMap_cons, List.flatMap_cons, hx, hy]
      rfl
    have hspaced : spaced (0x25 :: x :: y :: raw.flatMap String.utf8EncodeChar)
        = 0x25 :: x :: y :: spaced (raw.flatMap String.utf8EncodeChar) := by
      rw [spaced, List.map_cons, List.map_cons, List.map_cons, if_neg hxplus, if_neg hyplus]
      rfl
    change formBytes ('%' :: c :: d :: raw) = _
    rw [formBytes, hflat, hspaced, percentDecode_of_hexPair? (hexPair?_digits hxvalue hyvalue),
      formBytes]

theorem formBytes_flatten_append {pieces : List (List Char)} (h : List.Forall₂ WritesByte bs pieces)
    (raw : List Char) :
  formBytes (pieces.flatten ++ raw) = bs ++ formBytes raw
  := by
  induction h with
  | nil => rfl
  | cons hb _ ih =>
    rw [List.flatten_cons, List.append_assoc, hb.formBytes_append, ih, List.cons_append]

/-- In front of anything, what stands for a character is decoded to its bytes. -/
theorem FormEncodesChar.formBytes_append (h : FormEncodesChar c piece) (raw : List Char) :
  formBytes (piece ++ raw) = String.utf8EncodeChar c ++ formBytes raw
  := by
  cases h with
  | itself hpercent hplus =>
    apply formBytes_cons_of_not_mem
    · rw [Utf8.mem_utf8EncodeChar_iff (by decide)]
      intro hc
      apply hpercent (Char.toNat_inj.1 hc)
    · rw [Utf8.mem_utf8EncodeChar_iff (by decide)]
      intro hc
      apply hplus (Char.toNat_inj.1 hc)
  | bytes h => apply formBytes_flatten_append h
  | blank h =>
    rw [h]
    apply percentDecode_cons_of_ne (by decide)

/-- The encoding of a text, in whatever way its characters are written, stands for the bytes of the
text. -/
theorem formBytes_of_formEncodes (h : FormEncodes cs raw) :
  formBytes raw = cs.flatMap String.utf8EncodeChar
  := by
  induction h with
  | nil => rfl
  | cons hc _ ih => rw [hc.formBytes_append, ih, List.flatMap_cons]

end

end ScanIndex
