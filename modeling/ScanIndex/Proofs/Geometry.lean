import ScanIndex.Proofs.FloatOrder
import ScanIndex.Sql.Tables

/-!
# Clamped corners

Whatever the numbers of a box are, the coordinates of its corners are numbers, and so can be stored
(`hasEmptyCell_ofBox`), and its top left corner does not lie beyond its bottom right corner
(`topLeft_le_bottomRight_ofBox`).
-/

namespace ScanIndex

theorem isNaN_clampUnit (v : Float) :
  (clampUnit v).isNaN = false
  := by
  have hzero : (0 : Float).isNaN = false := by decide
  have hone : (1 : Float).isNaN = false := by decide
  rw [clampUnit]
  split
  next => exact hzero
  next hv =>
    split
    next => exact hzero
    next =>
      split
      next => exact hone
      next => exact Bool.eq_false_iff.2 hv

/-- The lesser of two numbers is found by one comparison. -/
theorem lesser_eq_ite {a b : Float} (ha : a.isNaN = false) (hb : b.isNaN = false) :
  lesser a b = if b < a then b else a
  := by
  rw [lesser, if_neg (Bool.eq_false_iff.1 ha), if_neg (Bool.eq_false_iff.1 hb)]

/-- The greater of two numbers is found by one comparison. -/
theorem greater_eq_ite {a b : Float} (ha : a.isNaN = false) (hb : b.isNaN = false) :
  greater a b = if a < b then b else a
  := by
  rw [greater, if_neg (Bool.eq_false_iff.1 ha), if_neg (Bool.eq_false_iff.1 hb)]

/-- The greater of two numbers is a number. -/
theorem isNaN_greater {a b : Float} (ha : a.isNaN = false) (hb : b.isNaN = false) :
  (greater a b).isNaN = false
  := by
  rw [greater_eq_ite ha hb]
  split
  next => exact hb
  next => exact ha

/-- No coordinate of the corners of a box is missing, not even if the edges are no numbers. -/
theorem hasEmptyCell_ofBox (b : BoundingBox) :
  Sql.hasEmptyCell (Corners.ofBox b) = false
  := by
  have hleft := isNaN_clampUnit b.left
  have htop := isNaN_clampUnit b.top
  have hright := isNaN_greater (isNaN_clampUnit (b.left + b.width)) hleft
  have hbottom := isNaN_greater (isNaN_clampUnit (b.top + b.height)) htop
  simp only [Sql.hasEmptyCell, Corners.ofBox, Corners.ofEdges, List.any_cons, List.any_nil, hleft,
    htop, hright, hbottom, Bool.or_false]

/-- The greater of two numbers is at least the second one. -/
theorem le_greater {a b : Float} (ha : a.isNaN = false) (hb : b.isNaN = false) :
  b ≤ greater a b
  := by
  rw [greater_eq_ite ha hb]
  split
  next => apply float_le_refl hb
  next hab =>
    rw [float_lt_iff_not_le ha hb, not_not] at hab
    exact hab

/-- Of two numbers the lesser one is the minimum. -/
theorem lesser_eq_min {a b : Float} (ha : a.isNaN = false) (hb : b.isNaN = false) :
  lesser a b = min a b
  := by
  have hmin : min a b = if a ≤ b then a else b := rfl
  rw [lesser_eq_ite ha hb, hmin]
  by_cases hab : a ≤ b
  · rw [if_pos hab, if_neg]
    rw [float_lt_iff_not_le hb ha, not_not]
    exact hab
  · rw [if_neg hab, if_pos ((float_lt_iff_not_le hb ha).2 hab)]

/-- Of two numbers the greater one is equal to the maximum, which may be a zero of the
other sign. -/
theorem greater_beq_max {a b : Float} (ha : a.isNaN = false) (hb : b.isNaN = false) :
  (greater a b == max a b) = true
  := by
  have hmax : max a b = if a ≤ b then b else a := rfl
  rw [greater_eq_ite ha hb, hmax]
  by_cases hlt : a < b
  · rw [if_pos hlt, if_pos (float_le_of_lt hlt)]
    apply beq_iff_rank_eq.2 ⟨hb, hb, rfl⟩
  · rw [if_neg hlt]
    split
    next hle =>
      rw [float_lt_iff_not_le ha hb, not_not] at hlt
      apply beq_iff_rank_eq.2 ⟨ha, hb, _⟩
      apply le_antisymm (le_iff_rank_le.1 hle).2.2 (le_iff_rank_le.1 hlt).2.2
    next => apply beq_iff_rank_eq.2 ⟨ha, ha, rfl⟩

/-- If the lesser of two floats is less than the greater one, both are numbers. -/
theorem isNaN_of_lesser_lt_greater {a b : Float} (h : lesser a b < greater a b) :
  a.isNaN = false ∧ b.isNaN = false
  := by
  rw [lesser, greater] at h
  constructor
  · rw [Bool.eq_false_iff]
    intro ha
    rw [if_pos ha, if_pos ha] at h
    apply float_lt_irrefl b h
  · rw [Bool.eq_false_iff]
    intro hb
    by_cases ha : a.isNaN = true
    · rw [if_pos ha, if_pos ha] at h
      apply float_lt_irrefl b h
    · rw [if_neg ha, if_neg ha, if_pos hb, if_pos hb] at h
      apply float_lt_irrefl a h

theorem lesser_greater_of_lt {a b : Float} (h : a < b) :
  lesser a b = a ∧ greater a b = b
  := by
  obtain ⟨ha, hb, -⟩ := lt_iff_rank_lt.1 h
  rw [lesser_eq_ite ha hb, greater_eq_ite ha hb, if_neg (float_lt_asymm h), if_pos h]
  exact ⟨rfl, rfl⟩

theorem lesser_greater_of_gt {a b : Float} (h : b < a) :
  lesser a b = b ∧ greater a b = a
  := by
  obtain ⟨hb, ha, -⟩ := lt_iff_rank_lt.1 h
  rw [lesser_eq_ite ha hb, greater_eq_ite ha hb, if_neg (float_lt_asymm h), if_pos h]
  exact ⟨rfl, rfl⟩

/-- The lesser of two floats is less than the greater one exactly if one of them is less than the
other. -/
theorem lesser_lt_greater_iff {a b : Float} :
  lesser a b < greater a b ↔ a < b ∨ b < a
  := by
  constructor
  · intro h
    obtain ⟨ha, hb⟩ := isNaN_of_lesser_lt_greater h
    by_contra hnot
    rw [not_or] at hnot
    rw [lesser_eq_ite ha hb, greater_eq_ite ha hb, if_neg hnot.1, if_neg hnot.2] at h
    apply float_lt_irrefl a h
  · rintro (h | h)
    · rw [(lesser_greater_of_lt h).1, (lesser_greater_of_lt h).2]
      exact h
    · rw [(lesser_greater_of_gt h).1, (lesser_greater_of_gt h).2]
      exact h

/-- If the minimum and the maximum of two floats are numbers, so are both floats. -/
theorem isNaN_of_min_of_max {a b : Float} (hmin : (min a b).isNaN = false)
    (hmax : (max a b).isNaN = false) :
  a.isNaN = false ∧ b.isNaN = false
  := by
  change (if a ≤ b then a else b).isNaN = false at hmin
  change (if a ≤ b then b else a).isNaN = false at hmax
  by_cases hab : a ≤ b
  · rw [if_pos hab] at hmin hmax
    exact ⟨hmin, hmax⟩
  · rw [if_neg hab] at hmin hmax
    exact ⟨hmax, hmin⟩

/-- No edge of the corners of a box lies before the opposite one. -/
theorem topLeft_le_bottomRight_ofBox (b : BoundingBox) :
  (Corners.ofBox b).topLeft.x ≤ (Corners.ofBox b).bottomRight.x
    ∧ (Corners.ofBox b).topLeft.y ≤ (Corners.ofBox b).bottomRight.y
  := by
  constructor
  all_goals apply le_greater (isNaN_clampUnit _) (isNaN_clampUnit _)

end ScanIndex
