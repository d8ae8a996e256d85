import Mathlib
import ScanIndex.Proofs.FloatOrder

/-!
# Values of floats

A finite float has a rational number as its `value`.  The mantissa of a finite float fits into 53
bits, and has all of them unless the exponent is the least one (`isCanonical_unpack`), so the order
of floats is that of their values (`value_le_value`).

Integers of 64 bits become finite floats (`isFinite_toFloat`).
-/

namespace ScanIndex

open Float.Model (UnpackedFloat Format totalExponent)

/-! ### Canonical form -/

/-- The mantissa fits into 53 bits, and has all of them unless the exponent is the least one. -/
def IsCanonical : UnpackedFloat → Prop
  | .finite _ m e _ => m < 2 ^ 53 ∧ -1074 ≤ e ∧ e ≤ 971 ∧ (e = -1074 ∨ 2 ^ 52 ≤ m)
  | _ => True

/-- The exponent of a float is stored with a bias of 1023, for a mantissa with 52 digits behind its
point. -/
theorem isCanonical_unpack (x : Float.Model) :
  IsCanonical x.unpack
  := by
  have hbias : (Format.binary64.exponentBias : Int) + Format.binary64.mantissaBitsWithoutImplicit
      = 1075 := rfl
  rw [Float.Model.unpack, UnpackedFloat.unpack]
  split
  · split <;> trivial
  next hinfinite =>
    have hlt := (@UnpackedFloat.unpackExponent .binary64 x.toBits.toBitVec).isLt
    have hne : (@UnpackedFloat.unpackExponent .binary64 x.toBits.toBitVec).toNat ≠ 2047 := by
      intro h
      apply hinfinite (BitVec.eq_of_toNat_eq h)
    change _ < 2048 at hlt
    split
    next hzero =>
      split
      next => trivial
      next =>
        have hm := (@UnpackedFloat.unpackMantissa .binary64 x.toBits.toBitVec).isLt
        rw [IsCanonical, hzero, hbias]
        refine ⟨?_, by simp, by simp, .inl (by simp)⟩
        apply hm.trans_le
        decide
    next hnonzero =>
      have hm := (1#1 ++ @UnpackedFloat.unpackMantissa .binary64 x.toBits.toBitVec).isLt
      rw [IsCanonical, hbias]
      refine ⟨hm, ?_, ?_, .inr ?_⟩
      · have hpos : 0 < (@UnpackedFloat.unpackExponent .binary64 x.toBits.toBitVec).toNat := by
          rw [BitVec.toNat_pos, BitVec.pos_iff_ne_zero]
          apply hnonzero
        omega
      · omega
      · rw [BitVec.toNat_append]
        apply Nat.left_le_or

/-! ### Values -/

/-- The value of a finite float; zero for a float that is infinite or no number. -/
def unpackedValue : UnpackedFloat → ℚ
  | .finite .positive m e _ => m * 2 ^ e
  | .finite .negative m e _ => -(m * 2 ^ e)
  | _ => 0

/-- The value of a finite float; zero for a float that is infinite or no number. -/
def value (x : Float) : ℚ := unpackedValue x.toModel.unpack

@[simp] theorem value_zero :
  value 0 = 0
  := rfl

@[simp] theorem value_one :
  value 1 = 1
  := by
  have hone : (1 : Float).toModel.unpack = .finite .positive (2 ^ 52) (-52) (by decide) := rfl
  rw [value, hone, unpackedValue]
  norm_num

/-- Of two canonical floats the one of the greater exponent is greater, whatever the
mantissas are. -/
theorem mul_zpow_le_mul_zpow {s s' : UnpackedFloat.Sign} {m m' : Nat} {e e' : Int} {hm : 0 < m}
    {hm' : 0 < m'} (h : IsCanonical (.finite s m e hm)) (h' : IsCanonical (.finite s' m' e' hm'))
    (hle : e < e' ∨ e = e' ∧ m ≤ m') :
  (m : ℚ) * 2 ^ e ≤ m' * 2 ^ e'
  := by
  obtain ⟨hupper, hleast, -⟩ := h
  obtain ⟨-, -, -, hlower⟩ := h'
  obtain he | ⟨rfl, hmm⟩ := hle
  · have hm53 : (m : ℚ) ≤ 2 ^ 53 := by exact_mod_cast hupper.le
    have hm52 : (2 : ℚ) ^ 52 ≤ m' := by
      have : 2 ^ 52 ≤ m' := by omega
      exact_mod_cast this
    calc (m : ℚ) * 2 ^ e
      _ ≤ 2 ^ 53 * 2 ^ e := by gcongr
      _ = 2 ^ 52 * 2 ^ (e + 1) := by
        rw [zpow_add_one₀ two_ne_zero]
        ring
      _ ≤ 2 ^ 52 * 2 ^ e' := by
        gcongr
        · norm_num
        · omega
      _ ≤ m' * 2 ^ e' := by gcongr
  · gcongr

theorem isFinite_cases {u : UnpackedFloat} (h : u.isFinite = true) :
  (∃ s, u = .zero s) ∨ ∃ s m e hm, u = .finite s m e hm
  := by
  cases u with
  | zero s => exact .inl ⟨s, rfl⟩
  | finite s m e hm => exact .inr ⟨s, m, e, hm, rfl⟩
  | _ => cases h

/-- A finite float of a lower rank has a lower value. -/
theorem unpackedValue_le_unpackedValue {u v : UnpackedFloat} (hu : IsCanonical u)
    (hv : IsCanonical v) (hu' : u.isFinite = true) (hv' : v.isFinite = true)
    (h : unpackedRank u ≤ unpackedRank v) :
  unpackedValue u ≤ unpackedValue v
  := by
  have hnonneg (m : Nat) (e : Int) : (0 : ℚ) ≤ m * 2 ^ e := by positivity
  have hlt {k k' : Int} {a b : Int ×ₗ Int} (h : toLex (k, a) ≤ toLex (k', b)) : k ≤ k' := by
    rw [Prod.Lex.toLex_le_toLex] at h
    omega
  obtain ⟨s, rfl⟩ | ⟨s, m, e, hm, rfl⟩ := isFinite_cases hu'
  · obtain ⟨s', rfl⟩ | ⟨s', m', e', hm', rfl⟩ := isFinite_cases hv'
    · rfl
    · cases s' with
      | positive => apply hnonneg
      | negative => cases hlt h
  · obtain ⟨s', rfl⟩ | ⟨s', m', e', hm', rfl⟩ := isFinite_cases hv'
    · cases s with
      | positive => cases hlt h
      | negative => apply neg_nonpos.2 (hnonneg _ _)
    · cases s with
      | positive =>
        cases s' with
        | positive =>
          simp only [unpackedRank_positive, Prod.Lex.toLex_le_toLex, lt_self_iff_false, true_and,
            false_or, Nat.cast_le] at h
          apply mul_zpow_le_mul_zpow hu hv h
        | negative => cases hlt h
      | negative =>
        cases s' with
        | positive => apply (neg_nonpos.2 (hnonneg _ _)).trans (hnonneg _ _)
        | negative =>
          simp only [unpackedRank_negative, Prod.Lex.toLex_le_toLex, lt_self_iff_false, true_and,
            false_or] at h
          apply neg_le_neg (mul_zpow_le_mul_zpow hv hu _)
          omega

/-- Finite floats are in the order of their values. -/
theorem value_le_value {x y : Float} (hx : x.isFinite = true) (hy : y.isFinite = true) (h : x ≤ y) :
  value x ≤ value y
  := unpackedValue_le_unpackedValue (isCanonical_unpack _) (isCanonical_unpack _) hx hy
    (le_iff_rank_le.1 h).2.2

/-- A float between finite ones is finite: the ranks of the infinite ones are beyond those of all
finite ones. -/
theorem isFinite_of_le_of_le {x y z : Float} (hx : x.isFinite = true) (hz : z.isFinite = true)
    (hxy : x ≤ y) (hyz : y ≤ z) :
  y.isFinite = true
  := by
  obtain ⟨-, hnumber, hxy⟩ := le_iff_rank_le.1 hxy
  obtain ⟨-, -, hyz⟩ := le_iff_rank_le.1 hyz
  have hlt {k k' : Int} {a b : Int ×ₗ Int} (h : k < k') : toLex (k, a) < toLex (k', b) :=
    Prod.Lex.toLex_lt_toLex.2 (.inl h)
  have hbeyond {u : UnpackedFloat} (hu : u.isFinite = true) :
      unpackedRank (.infinity .negative) < unpackedRank u
        ∧ unpackedRank u < unpackedRank (.infinity .positive) := by
    obtain ⟨s, rfl⟩ | ⟨s, m, e, hm, rfl⟩ := isFinite_cases hu <;> cases s <;>
      exact ⟨hlt (by decide), hlt (by decide)⟩
  change y.toModel.unpack.isFinite = true
  rw [rank, rank] at hxy hyz
  cases hy : y.toModel.unpack with
  | notANumber =>
    change y.toModel.unpack.isNaN = false at hnumber
    rw [hy] at hnumber
    cases hnumber
  | infinity s =>
    rw [hy] at hxy hyz
    cases s with
    | positive => cases hyz.not_gt (hbeyond hz).2
    | negative => cases hxy.not_gt (hbeyond hx).1
  | _ => rfl

/-! ### Integers -/

/-- The float is finite, with an exponent of at most `b`. -/
def HasExponentAtMost (b : Int) : UnpackedFloat → Prop
  | .zero _ => True
  | .finite _ _ e _ => e ≤ b
  | _ => False

theorem isFinite_unpack {b : BitVec Format.binary64.numBits}
    (h : UnpackedFloat.unpackExponent b ≠ -1#_) :
  (UnpackedFloat.unpack .binary64 b).isFinite = true
  := by
  rw [UnpackedFloat.unpack, if_neg h]
  split
  · split <;> rfl
  · rfl

/-- A float whose exponent is not beyond the greatest one that can be stored is not stored as
infinite. -/
theorem isFinite_unpack_pack {u : UnpackedFloat} (h : HasExponentAtMost 971 u) :
  (Float.Model.pack u).unpack.isFinite = true
  := by
  apply isFinite_unpack
  change UnpackedFloat.unpackExponent (UnpackedFloat.pack .binary64 u) ≠ _
  cases u with
  | zero s =>
    rw [UnpackedFloat.pack, UnpackedFloat.packedZero, UnpackedFloat.unpackExponent_packComponents]
    decide
  | finite s m e hm =>
    have hfits {b : Nat} (hb : b < 2047) : BitVec.ofNat 11 b ≠ -1#_ := by
      intro heq
      have hnat := congrArg BitVec.toNat heq
      rw [BitVec.toNat_ofNat, Nat.mod_eq_of_lt (hb.trans (by decide))] at hnat
      apply hb.ne hnat
    have hbias : (Format.binary64.exponentBias : Int) = 1023 := rfl
    have hbits : 2 ^ Format.binary64.exponentBits = 2048 := rfl
    rw [HasExponentAtMost] at h
    simp only [UnpackedFloat.pack, hbias, hbits]
    rw [if_neg (by omega)]
    split
    · rw [UnpackedFloat.unpackExponent_packComponents]
      apply hfits
      omega
    · rw [UnpackedFloat.unpackExponent_packComponents]
      decide
  | _ => cases h

theorem shiftToTargetExponent_snd (m : Nat) (e : Int) (a : UnpackedFloat.Accuracy) :
  (UnpackedFloat.shiftToTargetExponent .binary64 m e a).2
    = max e (Format.binary64.targetExponent (totalExponent m e))
  := by
  rw [UnpackedFloat.shiftToTargetExponent, UnpackedFloat.shiftToExponent]
  omega

theorem shiftToTargetExponent_mantissa_le (m : Nat) (e : Int) (a : UnpackedFloat.Accuracy) :
  (UnpackedFloat.shiftToTargetExponent .binary64 m e a).1.mantissa ≤ m
  := by
  have hshift (x : UnpackedFloat.ExtendedMantissa) (n : Nat) :
      (n.repeat UnpackedFloat.ExtendedMantissa.shiftRightOne x).mantissa ≤ x.mantissa := by
    induction n with
    | zero => rfl
    | succ n ih => apply (Nat.div_le_self _ 2).trans ih
  have hstart : (UnpackedFloat.ExtendedMantissa.ofMantissaAndAccuracy m a).mantissa = m := by
    rcases a with _ | (_ | _ | _) <;> rfl
  apply (hshift _ _).trans hstart.le

theorem roundedMantissa_le (x : UnpackedFloat.ExtendedMantissa) :
  x.roundedMantissa ≤ x.mantissa + 1
  := by
  rw [UnpackedFloat.ExtendedMantissa.roundedMantissa]
  rcases x.accuracy with _ | (_ | _ | _)
  · apply Nat.le_succ
  · apply Nat.le_succ
  · change x.mantissa + x.mantissa % 2 ≤ x.mantissa + 1
    omega
  · rfl

theorem targetExponent_le {m k : Nat} (hm : m < 2 ^ k) (e : Int) :
  Format.binary64.targetExponent (totalExponent m e) ≤ max (e + k - 52) (-1074)
  := by
  have hlog : m.log2 ≤ k := by
    by_cases h : m = 0
    · rw [h]
      apply Nat.zero_le
    · apply ((Nat.log2_lt h).2 hm).le
  change max (m.log2 + 1 + e - 53) (-1074) ≤ _
  omega

/-- Rounding drops digits, after which a carry may take one more digit. -/
theorem hasExponentAtMost_roundWithAccuracy {m k : Nat} {e b : Int} (hm : m < 2 ^ k)
    (he : e + 2 * k ≤ b) (hleast : -1074 + k ≤ b) (s : UnpackedFloat.Sign)
    (a : UnpackedFloat.Accuracy) :
  HasExponentAtMost b (UnpackedFloat.roundWithAccuracy .binary64 s m e a)
  := by
  have hexponent := shiftToTargetExponent_snd m e a
  have hmantissa := shiftToTargetExponent_mantissa_le m e a
  rw [UnpackedFloat.roundWithAccuracy]
  generalize UnpackedFloat.shiftToTargetExponent .binary64 m e a = first at hexponent hmantissa
  have hrounded : first.1.roundedMantissa < 2 ^ (k + 1) := by
    have hcarry := roundedMantissa_le first.1
    rw [Nat.pow_succ]
    omega
  have htarget := targetExponent_le hm e
  have htarget' := targetExponent_le hrounded first.2
  change HasExponentAtMost _ (dite _ _ _)
  split
  · trivial
  · rw [HasExponentAtMost]
    omega

/-- An integer of 64 bits gets up to 52 more digits, and then is rounded. -/
theorem hasExponentAtMost_round {m : Nat} (hm : m < 2 ^ 64) (s : UnpackedFloat.Sign) :
  HasExponentAtMost 971 (UnpackedFloat.round .binary64 s m 0)
  := by
  have htarget : -52 ≤ Format.binary64.targetExponent (totalExponent m 0) := by
    change -52 ≤ max ((m.log2 : Int) + 1 + 0 - 53) (-1074)
    omega
  rw [UnpackedFloat.round, UnpackedFloat.decreaseExponent]
  generalize Format.binary64.targetExponent (totalExponent m 0) = t at htarget
  have hshifted : m <<< (0 - t).toNat < 2 ^ (64 + (0 - t).toNat) := by
    rw [Nat.shiftLeft_eq, Nat.pow_add]
    gcongr
  apply hasExponentAtMost_roundWithAccuracy hshifted
  · omega
  · omega

/-- Integers of 64 bits become finite floats. -/
theorem isFinite_toFloat (n : UInt64) :
  n.toFloat.isFinite = true
  := by
  apply isFinite_unpack_pack
  rw [UnpackedFloat.ofUInt64, UnpackedFloat.ofNat, UnpackedFloat.ofInt, UnpackedFloat.normalize]
  split
  next h =>
    rw [compare_lt_iff_lt] at h
    omega
  next => trivial
  next => apply hasExponentAtMost_round n.toNat_lt

theorem isFinite_neg {x : Float} (h : x.isFinite = true) :
  (-x).isFinite = true
  := by
  apply isFinite_unpack_pack
  have hcanonical := isCanonical_unpack x.toModel
  change x.toModel.unpack.isFinite = true at h
  obtain ⟨s, hx⟩ | ⟨s, m, e, hm, hx⟩ := isFinite_cases h
  · rw [hx]
    trivial
  · rw [hx] at hcanonical
    rw [hx]
    apply hcanonical.2.2.1

end ScanIndex
