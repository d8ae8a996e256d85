import Mathlib.Data.Prod.Lex
import Mathlib.Order.Compare
import ScanIndex.Geometry

/-!
# The order of floats

A float that is no number is not comparable with any float, and no comparison tells the two zeros
apart (`le_plainNumber_iff`, `plainNumber_le_iff`).  All other floats are in a linear order, that of
their ranks (`le_iff_rank_le`, `lt_iff_rank_lt`, `beq_iff_rank_eq`).
-/

namespace ScanIndex

open Float.Model (UnpackedFloat)

theorem le_iff_unpack_le {x y : Float} :
  x ≤ y ↔ x.toModel.unpack.le y.toModel.unpack = true
  := by
  change decide (x.toModel ≤ y.toModel) = true ↔ _
  rw [decide_eq_true_iff]
  rfl

theorem unpack_of_isNaN {x : Float} (h : x.isNaN = true) :
  x.toModel.unpack = .notANumber
  := by
  change x.toModel.unpack.isNaN = true at h
  cases hx : x.toModel.unpack with
  | notANumber => rfl
  | _ => rw [hx] at h; cases h

theorem compare_notANumber (x : UnpackedFloat) :
  x.compare .notANumber = none ∧ UnpackedFloat.notANumber.compare x = none
  := by
  cases x <;> exact ⟨rfl, rfl⟩

/-- Nothing is at most a float that is no number. -/
theorem not_le_of_isNaN {x y : Float} (h : y.isNaN = true) :
  ¬ x ≤ y
  := by
  rw [le_iff_unpack_le, unpack_of_isNaN h, UnpackedFloat.le, (compare_notANumber _).1]
  exact Bool.false_ne_true

/-- A float that is no number is not at most any float. -/
theorem not_ge_of_isNaN {x y : Float} (h : y.isNaN = true) :
  ¬ y ≤ x
  := by
  rw [le_iff_unpack_le, unpack_of_isNaN h, UnpackedFloat.le, (compare_notANumber _).2]
  exact Bool.false_ne_true

/-! ### Signs of zeros -/

theorem unpack_zero :
  (0 : Float).toModel.unpack = .zero .positive
  := rfl

theorem exists_unpack_of_eq_zero {x : Float} (h : (x == 0) = true) :
  ∃ s, x.toModel.unpack = .zero s
  := by
  change (x.toModel.unpack.compare (0 : Float).toModel.unpack == some .eq) = true at h
  rw [unpack_zero] at h
  cases hx : x.toModel.unpack with
  | zero s => exact ⟨s, rfl⟩
  | notANumber =>
    rw [hx] at h
    cases h
  | infinity s =>
    rw [hx] at h
    cases s <;> cases h
  | finite s m e hm =>
    rw [hx] at h
    cases s <;> cases h

/-- A zero of either sign stands in the same order to every float. -/
theorem compare_zero (s s' : UnpackedFloat.Sign) (x : UnpackedFloat) :
  x.compare (.zero s) = x.compare (.zero s')
    ∧ (UnpackedFloat.zero s).compare x = (UnpackedFloat.zero s').compare x
  := by
  cases x with
  | infinity s => cases s <;> exact ⟨rfl, rfl⟩
  | finite s m e hm => cases s <;> exact ⟨rfl, rfl⟩
  | _ => exact ⟨rfl, rfl⟩

theorem le_plainNumber_iff {x y : Float} :
  x ≤ plainNumber y ↔ x ≤ y
  := by
  rw [plainNumber]
  split
  next h =>
    obtain ⟨s, hs⟩ := exists_unpack_of_eq_zero h
    rw [le_iff_unpack_le, le_iff_unpack_le, hs, unpack_zero, UnpackedFloat.le, UnpackedFloat.le,
      (compare_zero s .positive _).1]
  next => rfl

theorem plainNumber_le_iff {x y : Float} :
  plainNumber x ≤ y ↔ x ≤ y
  := by
  rw [plainNumber]
  split
  next h =>
    obtain ⟨s, hs⟩ := exists_unpack_of_eq_zero h
    rw [le_iff_unpack_le, le_iff_unpack_le, hs, unpack_zero, UnpackedFloat.le, UnpackedFloat.le,
      (compare_zero s .positive _).2]
  next => rfl

@[simp] theorem plainNumber_plainNumber (x : Float) :
  plainNumber (plainNumber x) = plainNumber x
  := by
  by_cases h : (x == 0) = true
  · have hx : plainNumber x = 0 := if_pos h
    rw [hx]
    rfl
  · have hx : plainNumber x = x := if_neg h
    rw [hx, hx]

theorem Corners.plain_plain (c : Corners) :
  c.plain.plain = c.plain
  := by
  simp [plain, Point.plain]

/-! ### Ranks of numbers -/

/-- The place of a number among all numbers: first its sign and whether it is zero, finite or
infinite, then its exponent and its mantissa. -/
def unpackedRank : UnpackedFloat → Int ×ₗ Int ×ₗ Int
  | .infinity .negative => toLex (-2, toLex (0, 0))
  | .finite .negative m e _ => toLex (-1, toLex (-e, -m))
  | .finite .positive m e _ => toLex (1, toLex (e, m))
  | .infinity .positive => toLex (2, toLex (0, 0))
  | _ => toLex (0, toLex (0, 0))

/-- The place of a number among all numbers. -/
def rank (x : Float) : Int ×ₗ Int ×ₗ Int := unpackedRank x.toModel.unpack

section

variable {m m' : Nat} (hm : 0 < m) (hm' : 0 < m') (e e' : Int)

theorem unpackedRank_positive :
  unpackedRank (.finite .positive m e hm) = toLex (1, toLex (e, (m : Int)))
  := rfl

theorem unpackedRank_negative :
  unpackedRank (.finite .negative m e hm) = toLex (-1, toLex (-e, -(m : Int)))
  := rfl

/-- Positive numbers are compared by their exponents first. -/
theorem compares_positive :
  ((compare e e').then (compare m m')).Compares (unpackedRank (.finite .positive m e hm))
    (unpackedRank (.finite .positive m' e' hm'))
  := by
  rw [unpackedRank_positive, unpackedRank_positive]
  rcases lt_trichotomy e e' with he | rfl | he
  · rw [compare_lt_iff_lt.2 he]
    simp [Ordering.Compares, Prod.Lex.toLex_lt_toLex, he]
  · rw [compare_eq_iff_eq.2 rfl]
    change (compare m m').Compares _ _
    rcases lt_trichotomy m m' with h | rfl | h
    · rw [compare_lt_iff_lt.2 h]
      simp [Ordering.Compares, Prod.Lex.toLex_lt_toLex, h]
    · rw [compare_eq_iff_eq.2 rfl]
      rfl
    · rw [compare_gt_iff_gt.2 h]
      simp [Ordering.Compares, Prod.Lex.toLex_lt_toLex, h]
  · rw [compare_gt_iff_gt.2 he]
    simp [Ordering.Compares, Prod.Lex.toLex_lt_toLex, he]

/-- Negative numbers are in the opposite order. -/
theorem compares_negative :
  ((compare e e').then (compare m m')).swap.Compares (unpackedRank (.finite .negative m e hm))
    (unpackedRank (.finite .negative m' e' hm'))
  := by
  have hopposite {a b : Nat} (ha : 0 < a) (hb : 0 < b) (i j : Int) :
      unpackedRank (.finite .negative a i ha) < unpackedRank (.finite .negative b j hb)
        ↔ unpackedRank (.finite .positive b j hb) < unpackedRank (.finite .positive a i ha) := by
    rw [unpackedRank_negative, unpackedRank_negative, unpackedRank_positive, unpackedRank_positive]
    simp [Prod.Lex.toLex_lt_toLex]
    omega
  have hpositive := compares_positive hm hm' e e'
  cases ho : (compare e e').then (compare m m') with
  | lt =>
    rw [ho] at hpositive
    apply (hopposite _ _ _ _).2 hpositive
  | eq =>
    rw [ho, unpackedRank_positive, unpackedRank_positive] at hpositive
    rw [unpackedRank_negative, unpackedRank_negative]
    simpa [Ordering.Compares] using hpositive
  | gt =>
    rw [ho] at hpositive
    apply (hopposite _ _ _ _).2 hpositive

end

/-- Numbers are compared like their ranks. -/
theorem exists_compare_eq_some {x y : UnpackedFloat} (hx : x.isNaN = false) (hy : y.isNaN = false) :
  ∃ o, x.compare y = some o ∧ o.Compares (unpackedRank x) (unpackedRank y)
  := by
  have hlt {k k' : Int} {a b : Int ×ₗ Int} (h : k < k') : toLex (k, a) < toLex (k', b) :=
    Prod.Lex.toLex_lt_toLex.2 (.inl h)
  match x, y with
  | .notANumber, _ => cases hx
  | _, .notANumber => cases hy
  | .finite .positive m e hm, .finite .positive m' e' hm' =>
    exact ⟨_, rfl, compares_positive hm hm' e e'⟩
  | .finite .negative m e hm, .finite .negative m' e' hm' =>
    exact ⟨_, rfl, compares_negative hm hm' e e'⟩
  | .zero _, .zero _ => exact ⟨.eq, rfl, rfl⟩
  | .infinity .positive, .infinity .positive => exact ⟨.eq, rfl, rfl⟩
  | .infinity .negative, .infinity .negative => exact ⟨.eq, rfl, rfl⟩
  | .finite .positive .., .finite .negative .. => exact ⟨.gt, rfl, hlt (by decide)⟩
  | .finite .negative .., .finite .positive .. => exact ⟨.lt, rfl, hlt (by decide)⟩
  | .infinity .positive, .infinity .negative => exact ⟨.gt, rfl, hlt (by decide)⟩
  | .infinity .negative, .infinity .positive => exact ⟨.lt, rfl, hlt (by decide)⟩
  | .zero _, .finite s .. => cases s <;> exact ⟨_, rfl, hlt (by decide)⟩
  | .finite s .., .zero _ => cases s <;> exact ⟨_, rfl, hlt (by decide)⟩
  | .zero _, .infinity s => cases s <;> exact ⟨_, rfl, hlt (by decide)⟩
  | .infinity s, .zero _ => cases s <;> exact ⟨_, rfl, hlt (by decide)⟩
  | .infinity s, .finite s' .. => cases s <;> cases s' <;> exact ⟨_, rfl, hlt (by decide)⟩
  | .finite s .., .infinity s' => cases s <;> cases s' <;> exact ⟨_, rfl, hlt (by decide)⟩

/-- Two floats that a comparison tells something about are numbers, and so are their ranks. -/
theorem compare_eq_some_iff {x y : Float} {o : Ordering} :
  x.toModel.unpack.compare y.toModel.unpack = some o
    ↔ x.isNaN = false ∧ y.isNaN = false ∧ o.Compares (rank x) (rank y)
  := by
  constructor
  · intro h
    have hx : x.isNaN = false := by
      rw [Bool.eq_false_iff]
      intro hx
      rw [unpack_of_isNaN hx, (compare_notANumber _).2] at h
      cases h
    have hy : y.isNaN = false := by
      rw [Bool.eq_false_iff]
      intro hy
      rw [unpack_of_isNaN hy, (compare_notANumber _).1] at h
      cases h
    obtain ⟨o', ho', hcompares⟩ := exists_compare_eq_some hx hy
    rw [h] at ho'
    cases ho'
    exact ⟨hx, hy, hcompares⟩
  · rintro ⟨hx, hy, hcompares⟩
    obtain ⟨o', ho', hcompares'⟩ := exists_compare_eq_some hx hy
    rw [ho', hcompares'.inj hcompares]

theorem le_iff_rank_le {x y : Float} :
  x ≤ y ↔ x.isNaN = false ∧ y.isNaN = false ∧ rank x ≤ rank y
  := by
  have hle : x ≤ y ↔ x.toModel.unpack.compare y.toModel.unpack = some .lt
      ∨ x.toModel.unpack.compare y.toModel.unpack = some .eq := by
    rw [le_iff_unpack_le, UnpackedFloat.le]
    rcases x.toModel.unpack.compare y.toModel.unpack with _ | (_ | _ | _) <;> decide
  rw [hle, compare_eq_some_iff, compare_eq_some_iff, ← and_or_left, ← and_or_left, le_iff_lt_or_eq]
  rfl

theorem lt_iff_rank_lt {x y : Float} :
  x < y ↔ x.isNaN = false ∧ y.isNaN = false ∧ rank x < rank y
  := by
  have hlt : x < y ↔ x.toModel.unpack.compare y.toModel.unpack = some .lt := by
    change decide (x.toModel.unpack.lt y.toModel.unpack = true) = true ↔ _
    rw [decide_eq_true_iff, UnpackedFloat.lt, beq_iff_eq]
  rw [hlt, compare_eq_some_iff]
  rfl

theorem beq_iff_rank_eq {x y : Float} :
  (x == y) = true ↔ x.isNaN = false ∧ y.isNaN = false ∧ rank x = rank y
  := by
  have hbeq : (x == y) = true ↔ x.toModel.unpack.compare y.toModel.unpack = some .eq := by
    change (x.toModel.unpack.compare y.toModel.unpack == some .eq) = true ↔ _
    rw [beq_iff_eq]
  rw [hbeq, compare_eq_some_iff]
  rfl

/-! ### Numbers in order -/

section

variable {x y z : Float}

theorem float_le_refl (h : x.isNaN = false) :
  x ≤ x
  := le_iff_rank_le.2 ⟨h, h, le_refl _⟩

theorem float_le_trans (h : x ≤ y) (h' : y ≤ z) :
  x ≤ z
  := by
  obtain ⟨hx, -, hxy⟩ := le_iff_rank_le.1 h
  obtain ⟨-, hz, hyz⟩ := le_iff_rank_le.1 h'
  apply le_iff_rank_le.2 ⟨hx, hz, hxy.trans hyz⟩

theorem float_le_of_lt (h : x < y) :
  x ≤ y
  := by
  obtain ⟨hx, hy, hxy⟩ := lt_iff_rank_lt.1 h
  apply le_iff_rank_le.2 ⟨hx, hy, hxy.le⟩

/-- Of two numbers, one is less than the other one exactly if that is not at most the first. -/
theorem float_lt_iff_not_le (hx : x.isNaN = false) (hy : y.isNaN = false) :
  x < y ↔ ¬y ≤ x
  := by
  rw [lt_iff_rank_lt, le_iff_rank_le, hx, hy]
  simp only [true_and, not_le]

theorem float_lt_irrefl (x : Float) :
  ¬x < x
  := by
  intro h
  apply lt_irrefl (rank x) (lt_iff_rank_lt.1 h).2.2

theorem float_lt_asymm (h : x < y) :
  ¬y < x
  := by
  intro h'
  apply lt_asymm (lt_iff_rank_lt.1 h).2.2 (lt_iff_rank_lt.1 h').2.2

/-- One of two floats is less than the other exactly if they are numbers that are not equal. -/
theorem float_lt_or_gt_iff :
  x < y ∨ y < x ↔ ¬((x == y) = true ∨ x.isNaN = true ∨ y.isNaN = true)
  := by
  rw [lt_iff_rank_lt, lt_iff_rank_lt, beq_iff_rank_eq, not_or, not_or, Bool.not_eq_true,
    Bool.not_eq_true]
  constructor
  · rintro (⟨hx, hy, hlt⟩ | ⟨hy, hx, hlt⟩)
    · exact ⟨fun h => hlt.ne h.2.2, hx, hy⟩
    · exact ⟨fun h => hlt.ne' h.2.2, hx, hy⟩
  · rintro ⟨hne, hx, hy⟩
    rcases lt_trichotomy (rank x) (rank y) with hlt | heq | hgt
    · exact .inl ⟨hx, hy, hlt⟩
    · exact absurd ⟨hx, hy, heq⟩ hne
    · exact .inr ⟨hy, hx, hgt⟩

theorem float_le_or_le (hx : x.isNaN = false) (hy : y.isNaN = false) :
  x ≤ y ∨ y ≤ x
  := by
  rcases le_total (rank x) (rank y) with h | h
  · apply Or.inl (le_iff_rank_le.2 ⟨hx, hy, h⟩)
  · apply Or.inr (le_iff_rank_le.2 ⟨hy, hx, h⟩)

/-- Equal numbers are at most the same floats. -/
theorem float_le_congr_left (h : (x == y) = true) :
  x ≤ z ↔ y ≤ z
  := by
  obtain ⟨hx, hy, hxy⟩ := beq_iff_rank_eq.1 h
  rw [le_iff_rank_le, le_iff_rank_le, hx, hy, hxy]

/-- The same floats are at most equal numbers. -/
theorem float_le_congr_right (h : (x == y) = true) :
  z ≤ x ↔ z ≤ y
  := by
  obtain ⟨hx, hy, hxy⟩ := beq_iff_rank_eq.1 h
  rw [le_iff_rank_le, le_iff_rank_le, hx, hy, hxy]

/-- Equal numbers are equal to the same floats. -/
theorem float_beq_congr_left (h : (x == y) = true) :
  (x == z) = (y == z)
  := by
  obtain ⟨hx, hy, hxy⟩ := beq_iff_rank_eq.1 h
  rw [Bool.eq_iff_iff, beq_iff_rank_eq, beq_iff_rank_eq, hx, hy, hxy]

/-- Equal numbers are in the same order. -/
theorem float_lt_congr {x' y' : Float} (hx : (x == x') = true) (hy : (y == y') = true) :
  x < y ↔ x' < y'
  := by
  obtain ⟨hx, hx', hxx'⟩ := beq_iff_rank_eq.1 hx
  obtain ⟨hy, hy', hyy'⟩ := beq_iff_rank_eq.1 hy
  rw [lt_iff_rank_lt, lt_iff_rank_lt, hx, hx', hy, hy', hxx', hyy']

/-- Two closed intervals share a number exactly if neither ends before the other one begins: the
later one of their first numbers. -/
theorem exists_between_iff {a b c d : Float} (hab : a ≤ b) (hcd : c ≤ d) :
  (∃ x, (a ≤ x ∧ x ≤ b) ∧ c ≤ x ∧ x ≤ d) ↔ c ≤ b ∧ a ≤ d
  := by
  constructor
  · rintro ⟨x, ⟨hax, hxb⟩, hcx, hxd⟩
    apply And.intro (float_le_trans hcx hxb) (float_le_trans hax hxd)
  · rintro ⟨hcb, had⟩
    have ha := (le_iff_rank_le.1 hab).1
    have hc := (le_iff_rank_le.1 hcd).1
    rcases float_le_or_le ha hc with hac | hca
    · use c
      apply And.intro ⟨hac, hcb⟩ ⟨float_le_refl hc, hcd⟩
    · use a
      apply And.intro ⟨float_le_refl ha, hab⟩ ⟨hca, had⟩

end

end ScanIndex
