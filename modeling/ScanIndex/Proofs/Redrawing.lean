import ScanIndex.Proofs.FloatValue
import ScanIndex.Proofs.Geometry

/-!
# Boxes drawn once more

Corners are drawn from a box, and a box is read off corners.  An `Arithmetic` says with which
numbers, and how sums and differences are taken: `Arithmetic.binary64` rounds them, and is what
corners are drawn with (`Corners.ofBox_eq_draw`, `Corners.ofBox_toBox_eq_redraw`);
`Arithmetic.exact` does not round.

Reading off a box and drawing it once more can thus move edges by the rounding of two operations,
but by nothing else: with exact arithmetic, the edges of every box that has been drawn are kept, be
it drawn exactly (`redraw_draw`) or with rounding (`redraw_edges_ofBox`).
-/

namespace ScanIndex

/-- Numbers, and what is needed of them to draw boxes. -/
structure Arithmetic (α : Type) where
  zero : α
  one : α
  add : α → α → α
  sub : α → α → α
  Less : α → α → Prop
  decidableLess : DecidableRel Less
  isNaN : α → Bool

instance {α : Type} (A : Arithmetic α) : DecidableRel A.Less := A.decidableLess

/-- The edges of a box. -/
structure Edges (α : Type) where
  left : α
  top : α
  right : α
  bottom : α

namespace Edges

variable {α β : Type}

/-- The edges with every number replaced. -/
def map (f : α → β) (e : Edges α) : Edges β := ⟨f e.left, f e.top, f e.right, f e.bottom⟩

/-- The corners between the edges. -/
def corners (e : Edges Float) : Corners :=
  ⟨⟨e.left, e.top⟩, ⟨e.right, e.top⟩, ⟨e.left, e.bottom⟩, ⟨e.right, e.bottom⟩⟩

end Edges

/-- The edges of corners, as the top left and the bottom right corner give them. -/
def Corners.edges (c : Corners) : Edges Float :=
  ⟨c.topLeft.x, c.topLeft.y, c.bottomRight.x, c.bottomRight.y⟩

namespace Arithmetic

variable {α : Type} (A : Arithmetic α)

/-- The number of the unit interval that is nearest to `v`; zero if `v` is no number. -/
def clampUnit (v : α) : α :=
  if A.isNaN v then A.zero
  else if A.Less v A.zero then A.zero
  else if A.Less A.one v then A.one
  else v

/-- The greater of two numbers; one that is no number is passed over. -/
def greater (a b : α) : α :=
  if A.isNaN a then b else if A.isNaN b then a else if A.Less a b then b else a

/-- The edges of a box that is given by its left and top edges and its extent, clamped into the unit
square. -/
def draw (left top width height : α) : Edges α where
  left := A.clampUnit left
  top := A.clampUnit top
  right := A.greater (A.clampUnit (A.add left width)) (A.clampUnit left)
  bottom := A.greater (A.clampUnit (A.add top height)) (A.clampUnit top)

/-- The edges of the box that is read off the edges `e`. -/
def redraw (e : Edges α) : Edges α :=
  A.draw e.left e.top (A.sub e.right e.left) (A.sub e.bottom e.top)

/-- Floats, with sums and differences rounded. -/
def binary64 : Arithmetic Float where
  zero := 0
  one := 1
  add := (· + ·)
  sub := (· - ·)
  Less := (· < ·)
  decidableLess a b := inferInstanceAs (Decidable (a < b))
  isNaN := Float.isNaN

/-- Rational numbers. -/
def exact : Arithmetic ℚ where
  zero := 0
  one := 1
  add := (· + ·)
  sub := (· - ·)
  Less := (· < ·)
  decidableLess a b := inferInstanceAs (Decidable (a < b))
  isNaN _ := false

end Arithmetic

open Arithmetic

theorem Corners.ofBox_eq_draw (b : BoundingBox) :
  ofBox b = (binary64.draw b.left b.top b.width b.height).corners
  := rfl

theorem Corners.ofBox_toBox_eq_redraw (c : Corners) :
  ofBox c.toBox = (binary64.redraw c.edges).corners
  := ofBox_eq_draw c.toBox

/-! ### Exact arithmetic -/

/-- The edges are in order, and in the unit square. -/
structure Edges.IsProper (e : Edges ℚ) : Prop where
  left : 0 ≤ e.left
  horizontal : e.left ≤ e.right
  right : e.right ≤ 1
  top : 0 ≤ e.top
  vertical : e.top ≤ e.bottom
  bottom : e.bottom ≤ 1

theorem exact_clampUnit_eq (v : ℚ) :
  exact.clampUnit v = max 0 (min v 1)
  := by
  change (if v < 0 then 0 else if 1 < v then 1 else v) = _
  split
  next hneg => rw [max_eq_left ((min_le_left v 1).trans hneg.le)]
  next hneg =>
    rw [not_lt] at hneg
    split
    next hbig => rw [min_eq_right hbig.le, max_eq_right zero_le_one]
    next hbig => rw [min_eq_left (not_lt.1 hbig), max_eq_right hneg]

theorem exact_greater_eq (a b : ℚ) :
  exact.greater a b = max a b
  := by
  change (if a < b then b else a) = _
  split
  next hlt => rw [max_eq_right hlt.le]
  next hlt => rw [max_eq_left (not_lt.1 hlt)]

theorem exact_clampUnit_eq_self {v : ℚ} (h : 0 ≤ v) (h' : v ≤ 1) :
  exact.clampUnit v = v
  := by
  rw [exact_clampUnit_eq, min_eq_left h', max_eq_right h]

theorem exact_clampUnit_mem (v : ℚ) :
  0 ≤ exact.clampUnit v ∧ exact.clampUnit v ≤ 1
  := by
  rw [exact_clampUnit_eq]
  exact ⟨le_max_left _ _, max_le zero_le_one (min_le_right _ _)⟩

/-- Edges that are drawn exactly are in order, and in the unit square. -/
theorem isProper_draw (left top width height : ℚ) :
  (exact.draw left top width height).IsProper
  where
  left := (exact_clampUnit_mem _).1
  horizontal := (le_max_right _ _).trans_eq (exact_greater_eq _ _).symm
  right := by
    apply (exact_greater_eq _ _).trans_le
    apply max_le (exact_clampUnit_mem _).2 (exact_clampUnit_mem _).2
  top := (exact_clampUnit_mem _).1
  vertical := (le_max_right _ _).trans_eq (exact_greater_eq _ _).symm
  bottom := by
    apply (exact_greater_eq _ _).trans_le
    apply max_le (exact_clampUnit_mem _).2 (exact_clampUnit_mem _).2

/-- Exact arithmetic keeps edges that are in order, and in the unit square. -/
theorem Edges.IsProper.redraw_eq {e : Edges ℚ} (h : e.IsProper) :
  exact.redraw e = e
  := by
  have hright : exact.add e.left (exact.sub e.right e.left) = e.right := add_sub_cancel _ _
  have hbottom : exact.add e.top (exact.sub e.bottom e.top) = e.bottom := add_sub_cancel _ _
  rw [redraw, draw, hright, hbottom, exact_clampUnit_eq_self h.left (h.horizontal.trans h.right),
    exact_clampUnit_eq_self h.top (h.vertical.trans h.bottom),
    exact_clampUnit_eq_self (h.left.trans h.horizontal) h.right,
    exact_clampUnit_eq_self (h.top.trans h.vertical) h.bottom, exact_greater_eq, exact_greater_eq,
    max_eq_left h.horizontal, max_eq_left h.vertical]

/-- With exact arithmetic all the way, a box that has been drawn is drawn once more as it is. -/
theorem redraw_draw (left top width height : ℚ) :
  exact.redraw (exact.draw left top width height) = exact.draw left top width height
  := (isProper_draw left top width height).redraw_eq

/-! ### Edges that have been drawn with rounding -/

theorem isFinite_zero_one :
  (0 : Float).isFinite = true ∧ (1 : Float).isFinite = true
  := by
  decide +kernel

/-- A clamped number is in the unit interval. -/
theorem clampUnit_mem (v : Float) :
  0 ≤ clampUnit v ∧ clampUnit v ≤ 1
  := by
  have hnumber : (0 : Float).isNaN = false ∧ (1 : Float).isNaN = false := by decide +kernel
  have hone : (0 : Float) ≤ 1 := by decide +kernel
  rw [clampUnit]
  split
  next => exact ⟨float_le_refl hnumber.1, hone⟩
  next hv =>
    rw [Bool.not_eq_true] at hv
    split
    next => exact ⟨float_le_refl hnumber.1, hone⟩
    next hneg =>
      rw [float_lt_iff_not_le hv hnumber.1, not_not] at hneg
      split
      next => exact ⟨hone, float_le_refl hnumber.2⟩
      next hbig =>
        rw [float_lt_iff_not_le hnumber.2 hv, not_not] at hbig
        exact ⟨hneg, hbig⟩

/-- The greater one of two numbers of the unit interval is in the unit interval. -/
theorem greater_mem {a b : Float} (ha : 0 ≤ a ∧ a ≤ 1) (hb : 0 ≤ b ∧ b ≤ 1) :
  0 ≤ greater a b ∧ greater a b ≤ 1
  := by
  rw [greater]
  split
  next => exact hb
  next =>
    split
    next => exact ha
    next => split <;> assumption

/-- The values of floats in the unit interval are in it, and in the same order. -/
theorem value_mem {a b : Float} (ha : 0 ≤ a ∧ a ≤ 1) (hb : 0 ≤ b ∧ b ≤ 1) (hab : a ≤ b) :
  0 ≤ value a ∧ value a ≤ value b ∧ value b ≤ 1
  := by
  obtain ⟨hzero, hone⟩ := isFinite_zero_one
  have hfinite := isFinite_of_le_of_le hzero hone ha.1 ha.2
  have hfinite' := isFinite_of_le_of_le hzero hone hb.1 hb.2
  refine ⟨?_, value_le_value hfinite hfinite' hab, ?_⟩
  · rw [← value_zero]
    apply value_le_value hzero hfinite ha.1
  · rw [← value_one]
    apply value_le_value hfinite' hone hb.2

/-- The values of the edges of a box that has been drawn are in order, and in the unit square. -/
theorem isProper_edges_ofBox (b : BoundingBox) :
  ((Corners.ofBox b).edges.map value).IsProper
  := by
  obtain ⟨hhorizontal, hvertical⟩ := topLeft_le_bottomRight_ofBox b
  have hright := greater_mem (clampUnit_mem (b.left + b.width)) (clampUnit_mem b.left)
  have hbottom := greater_mem (clampUnit_mem (b.top + b.height)) (clampUnit_mem b.top)
  obtain ⟨hleft, hleftright, hright⟩ := value_mem (clampUnit_mem b.left) hright hhorizontal
  obtain ⟨htop, htopbottom, hbottom⟩ := value_mem (clampUnit_mem b.top) hbottom hvertical
  exact ⟨hleft, hleftright, hright, htop, htopbottom, hbottom⟩

/-- With exact arithmetic, a box that has been drawn with rounding is drawn once more as it is. -/
theorem redraw_edges_ofBox (b : BoundingBox) :
  exact.redraw ((Corners.ofBox b).edges.map value) = (Corners.ofBox b).edges.map value
  := (isProper_edges_ofBox b).redraw_eq

end ScanIndex
