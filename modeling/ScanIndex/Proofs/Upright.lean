import Mathlib.Data.List.Forall2
import ScanIndex.Filter
import ScanIndex.Proofs.Flattening

/-!
# Upright corners

A document that is made from blocks has pages that are numbered from one on, and lines whose corners
are those of an upright rectangle in the unit square, whatever the boxes of the blocks hold
(`Document.isUpright_ofBlocks`).  Nothing has to be known of the sums by which right and bottom
edges come about: the same is true of every document that has any numbers in their place
(`Document.IsMadeFrom`).
-/

namespace ScanIndex

/-- The float is a number, and in the unit interval. -/
structure InUnit (v : Float) : Prop where
  isNaN : v.isNaN = false
  zero_le : 0 ≤ v
  le_one : v ≤ 1

/-- The corners are those of an upright rectangle in the unit square. -/
structure Corners.IsUpright (c : Corners) : Prop where
  inUnit (k : Corner) (a : Axis) : InUnit (a.coordinate (k.point c))
  left : c.topLeft.x = c.bottomLeft.x
  right : c.topRight.x = c.bottomRight.x
  top : c.topLeft.y = c.topRight.y
  bottom : c.bottomLeft.y = c.bottomRight.y
  horizontal : c.topLeft.x ≤ c.topRight.x
  vertical : c.topLeft.y ≤ c.bottomLeft.y

/-- The pages are numbered from one on, and the corners of all lines are upright. -/
def Document.IsUpright (d : Document) : Prop :=
  ∀ p ∈ d.pages, 1 ≤ p.number ∧ ∀ l ∈ p.lines, l.coordinates.corners.IsUpright

/-- The line is made from the line block, but with any numbers as its right and bottom edges. -/
def Line.IsMadeFrom (b : Block) (l : Line) : Prop :=
  l.text = b.text.getD "" ∧ ∃ right bottom, l.coordinates.corners
    = Corners.ofEdges (b.box.getD .zero).left (b.box.getD .zero).top right bottom

/-- The page is made from the page block, but with any numbers as the right and bottom edges of
lines. -/
def Page.IsMadeFrom (blocks : List Block) (b : Block) (p : Page) : Prop :=
  p.number = b.pageNumber ∧ List.Forall₂ Line.IsMadeFrom (b.childLines blocks) p.lines

/-- The document is made from the blocks, but with any numbers as the right and bottom edges of
lines. -/
def Document.IsMadeFrom (blocks : List Block) (d : Document) : Prop :=
  List.Forall₂ (Page.IsMadeFrom blocks) (blocks.filter fun b => b.blockType = .page) d.pages

/-! ### Edges -/

theorem inUnit_clampUnit (v : Float) :
  InUnit (clampUnit v)
  := ⟨isNaN_clampUnit v, (clampUnit_mem v).1, (clampUnit_mem v).2⟩

theorem InUnit.greater {a b : Float} (ha : InUnit a) (hb : InUnit b) :
  InUnit (greater a b)
  := by
  obtain ⟨hzero, hone⟩ := greater_mem ⟨ha.zero_le, ha.le_one⟩ ⟨hb.zero_le, hb.le_one⟩
  exact ⟨isNaN_greater ha.isNaN hb.isNaN, hzero, hone⟩

/-- Corners that are drawn between edges are upright, whatever the edges are. -/
theorem Corners.isUpright_ofEdges (left top right bottom : Float) :
  (ofEdges left top right bottom).IsUpright
  := by
  have hleft := inUnit_clampUnit left
  have htop := inUnit_clampUnit top
  have hright := (inUnit_clampUnit right).greater hleft
  have hbottom := (inUnit_clampUnit bottom).greater htop
  constructor
  case inUnit =>
    intro k a
    cases k
    all_goals cases a
    all_goals assumption
  case horizontal => apply le_greater (inUnit_clampUnit right).isNaN hleft.isNaN
  case vertical => apply le_greater (inUnit_clampUnit bottom).isNaN htop.isNaN
  all_goals rfl

/-! ### Documents -/

/-- What is true of everything that is related to something is true of every item of a list
of such. -/
theorem forall_mem_of_forall₂ {α β : Type} {r : α → β → Prop} {p : β → Prop} {as : List α}
    {bs : List β} (h : List.Forall₂ r as bs) (hr : ∀ a b, r a b → p b) :
  ∀ b ∈ bs, p b
  := by
  induction h with
  | nil => simp
  | cons hab _ ih => exact List.forall_mem_cons.2 ⟨hr _ _ hab, ih⟩

theorem Line.IsMadeFrom.isUpright {b : Block} {l : Line} (h : IsMadeFrom b l) :
  l.coordinates.corners.IsUpright
  := by
  obtain ⟨-, right, bottom, hcorners⟩ := h
  rw [hcorners]
  apply Corners.isUpright_ofEdges

theorem Document.IsMadeFrom.isUpright {blocks : List Block} {d : Document}
    (h : IsMadeFrom blocks d) :
  d.IsUpright
  := by
  refine forall_mem_of_forall₂ h ?_
  rintro b p ⟨hnumber, hlines⟩
  constructor
  · rw [hnumber]
    apply one_le_pageNumber
  · refine forall_mem_of_forall₂ hlines ?_
    intro b l hl
    exact hl.isUpright

section

variable (ids : Supply) (n : Nat)

theorem isMadeFrom_linesOfBlocks (bs : List Block) :
  List.Forall₂ Line.IsMadeFrom bs (linesOfBlocks ids n bs)
  := by
  induction bs generalizing n with
  | nil => apply List.Forall₂.nil
  | cons b bs ih => exact .cons ⟨rfl, _, _, rfl⟩ (ih _)

theorem isMadeFrom_pagesOfBlocks (blocks ps : List Block) :
  List.Forall₂ (Page.IsMadeFrom blocks) ps (pagesOfBlocks ids blocks n ps).1
  := by
  induction ps generalizing n with
  | nil => apply List.Forall₂.nil
  | cons p ps ih => exact .cons ⟨rfl, isMadeFrom_linesOfBlocks ids _ _⟩ (ih _)

/-- A document that is made from blocks is upright, and so is every document that differs from it in
nothing but what comes of the sums for its right and bottom edges. -/
theorem Document.isUpright_ofBlocks (f : File) (blocks : List Block) :
  (ofBlocks ids n f blocks).1.IsUpright ∧ IsMadeFrom blocks (ofBlocks ids n f blocks).1
    ∧ ∀ d, IsMadeFrom blocks d → d.IsUpright
  := by
  have h : IsMadeFrom blocks (ofBlocks ids n f blocks).1 := isMadeFrom_pagesOfBlocks ids n blocks _
  use h.isUpright, h
  intro d hd
  exact hd.isUpright

end

/-- A line whose box is infinite, with a right edge that is no number and a bottom edge far above
the top. -/
theorem Document.isUpright_ofBlocks_infinite :
  ∃ (blocks : List Block) (d : Document),
    blocks = [⟨"p", .page, some 0, none, none, ["l"]⟩,
      ⟨"l", .line, none, none, some ⟨1 / 0, -1 / 0, -1 / 0, 1 / 0⟩, []⟩]
    ∧ d = ⟨"d", "b", "k",
      [⟨"p", 1, [⟨"l", "", ⟨"c", Corners.ofEdges (1 / 0) (-1 / 0) (0 / 0) (-7)⟩⟩]⟩]⟩
    ∧ d.IsMadeFrom blocks ∧ d.IsUpright
  := by
  let blocks : List Block := [⟨"p", .page, some 0, none, none, ["l"]⟩,
    ⟨"l", .line, none, none, some ⟨1 / 0, -1 / 0, -1 / 0, 1 / 0⟩, []⟩]
  let d : Document :=
    ⟨"d", "b", "k", [⟨"p", 1, [⟨"l", "", ⟨"c", Corners.ofEdges (1 / 0) (-1 / 0) (0 / 0) (-7)⟩⟩]⟩]⟩
  have h : d.IsMadeFrom blocks := .cons ⟨rfl, .cons ⟨rfl, _, _, rfl⟩ .nil⟩ .nil
  use blocks, d, rfl, rfl, h
  apply (isUpright_ofBlocks .strokes 0 ⟨"b", "k"⟩ blocks).2.2 d h

end ScanIndex
