import ScanIndex.Proofs.Geometry
import ScanIndex.Proofs.Search.Meeting

/-!
# The extent of a request

A search term stands for the set of the documents that have a line, on a page of its number, that
has its text and shares a point with its rectangle, and a request for the set that this makes of its
boolean combination of terms (`SearchTree.extent`).  A request that is compiled accepts exactly the
documents of its extent, of those that are made from boxes, and the `y` of its rectangles count only
by their minimum and their maximum (`SearchTree.accepts_iff_mem_extent`).
-/

namespace ScanIndex

/-- The points of the closed box between the top left and the bottom right corner. -/
def Corners.area (c : Corners) : Set Point :=
  {p | (c.topLeft.x ≤ p.x ∧ p.x ≤ c.bottomRight.x) ∧ c.topLeft.y ≤ p.y ∧ p.y ≤ c.bottomRight.y}

namespace Rectangle

/-- The lower end of the rectangle on the axis of `y`, whichever of its corners that is. -/
def lower (r : Rectangle) : Float := min r.first.y r.second.y

/-- The upper end of the rectangle on the axis of `y`. -/
def upper (r : Rectangle) : Float := max r.first.y r.second.y

/-- The points of the closed rectangle. -/
def area (r : Rectangle) : Set Point :=
  {p | (r.first.x ≤ p.x ∧ p.x ≤ r.second.x) ∧ r.lower ≤ p.y ∧ p.y ≤ r.upper}

end Rectangle

/-- The documents with a line that a term asks for. -/
def SearchTerm.extent (t : SearchTerm) : Set Document :=
  {d | ∃ p ∈ d.pages, p.number = t.pageNumber ∧ ∃ l ∈ p.lines, l.text = t.text
    ∧ (l.coordinates.corners.area ∩ t.rectangle.area).Nonempty}

/-- The documents that a request asks for. -/
def SearchTree.extent (t : SearchTree) : Set Document := Formula.extent SearchTerm.extent t

/-- Two terms differ at most in which of their `y` comes first, and in the signs of zeros there. -/
structure SearchTerm.SameBand (t u : SearchTerm) : Prop where
  text : t.text = u.text
  pageNumber : t.pageNumber = u.pageNumber
  left : t.rectangle.first.x = u.rectangle.first.x
  right : t.rectangle.second.x = u.rectangle.second.x
  lower : (t.rectangle.lower == u.rectangle.lower) = true
  upper : (t.rectangle.upper == u.rectangle.upper) = true

/-! ### Regions -/

/-- The edges of a region are in order exactly if each comes before the opposite one. -/
theorem Region.isProper_iff {r : Region} :
  r.isProper = true ↔ r.left < r.right ∧ r.top < r.bottom
  := by
  rw [isProper, Bool.and_eq_true, decide_eq_true_iff, decide_eq_true_iff]

/-- A rectangle with a proper region has numbers for its `y`, and the region lies between the lower
and the upper one. -/
theorem Rectangle.region_of_isProper {r : Rectangle} (h : r.region.isProper = true) :
  r.first.y.isNaN = false ∧ r.second.y.isNaN = false ∧ r.region.top = r.lower
    ∧ (r.region.bottom == r.upper) = true
  := by
  obtain ⟨hfirst, hsecond⟩ := isNaN_of_lesser_lt_greater (Region.isProper_iff.1 h).2
  exact ⟨hfirst, hsecond, lesser_eq_min hfirst hsecond, greater_beq_max hfirst hsecond⟩

/-- A box that is clamped into the page overlaps a proper region exactly if it shares a point with
the rectangle. -/
theorem Rectangle.overlaps_ofBox_iff {r : Rectangle} (h : r.region.isProper = true)
    (b : BoundingBox) :
  r.region.overlaps (Corners.ofBox b) = true ↔ ((Corners.ofBox b).area ∩ r.area).Nonempty
  := by
  obtain ⟨-, -, htop, hbottom⟩ := region_of_isProper h
  obtain ⟨hx, hy⟩ := Region.isProper_iff.1 h
  obtain ⟨hboxx, hboxy⟩ := topLeft_le_bottomRight_ofBox b
  have hlower : r.lower ≤ r.upper := by
    rw [← htop, ← float_le_congr_right hbottom]
    apply float_le_of_lt hy
  have hleft : r.first.x ≤ r.second.x := float_le_of_lt hx
  have hpoints : ((Corners.ofBox b).area ∩ r.area).Nonempty
      ↔ (∃ x, ((Corners.ofBox b).topLeft.x ≤ x ∧ x ≤ (Corners.ofBox b).bottomRight.x)
          ∧ r.first.x ≤ x ∧ x ≤ r.second.x)
        ∧ ∃ y, ((Corners.ofBox b).topLeft.y ≤ y ∧ y ≤ (Corners.ofBox b).bottomRight.y)
          ∧ r.lower ≤ y ∧ y ≤ r.upper := by
    constructor
    · rintro ⟨p, ⟨hpx, hpy⟩, hpx', hpy'⟩
      exact ⟨⟨p.x, hpx, hpx'⟩, p.y, hpy, hpy'⟩
    · rintro ⟨⟨x, hpx, hpx'⟩, y, hpy, hpy'⟩
      use ⟨x, y⟩
      exact ⟨⟨hpx, hpy⟩, hpx', hpy'⟩
  rw [hpoints, exists_between_iff hboxx hleft, exists_between_iff hboxy hlower, Region.overlaps,
    htop, Bool.and_eq_true, Bool.and_eq_true, Bool.and_eq_true, decide_eq_true_iff,
    decide_eq_true_iff, decide_eq_true_iff, decide_eq_true_iff, float_le_congr_right hbottom,
    and_assoc, and_assoc, and_assoc]
  rfl

/-! ### Terms -/

/-- Line filters for the same text on pages of the same number, with bounds that are satisfied by
the same corners, accept the same documents. -/
theorem LineFilter.accepts_congr {f g : LineFilter} (hnumber : f.pageNumber = g.pageNumber)
    (htext : f.text = g.text)
    (hbounds : ∀ c, (f.bounds.all fun b => b.holds c) = g.bounds.all fun b => b.holds c)
    (d : Document) :
  f.accepts d = g.accepts d
  := by
  obtain ⟨number, text, bounds⟩ := f
  obtain ⟨number', text', bounds'⟩ := g
  obtain rfl : number = number' := hnumber
  obtain rfl : text = text' := htext
  simp only [accepts, acceptsLine, hbounds]

namespace SearchTerm

variable {t u : SearchTerm}

/-- The filter of a term that is compiled accepts exactly the documents of the extent of
the term. -/
theorem accepts_iff_of_compile_eq_ok {c : Condition} (h : t.compile = .ok c) {d : Document}
    (hd : ∀ l ∈ d.lines, ∃ b, l.coordinates.corners = Corners.ofBox b) :
  c.accepts d = true ↔ d ∈ t.extent
  := by
  obtain ⟨⟨-, -, -, hproper⟩, rfl⟩ := compile_eq_ok_iff.1 h
  have hline {p : Page} (hp : p ∈ d.pages) {l : Line} (hl : l ∈ p.lines) :
      t.lineFilter.acceptsLine p l = true ↔ p.number = t.pageNumber ∧ l.text = t.text
        ∧ (l.coordinates.corners.area ∩ t.rectangle.area).Nonempty := by
    obtain ⟨b, hb⟩ := hd l (List.mem_flatMap.2 ⟨p, hp, hl⟩)
    rw [hb, ← Rectangle.overlaps_ofBox_iff hproper b, ← Region.all_holds_ofBox,
      LineFilter.acceptsLine, Bool.and_eq_true, Bool.and_eq_true, decide_eq_true_iff,
      decide_eq_true_iff, hb, and_assoc]
    rfl
  rw [Condition.accepts, LineFilter.accepts, List.any_eq_true]
  constructor
  · rintro ⟨p, hp, h⟩
    obtain ⟨l, hl, haccepts⟩ := List.any_eq_true.1 h
    obtain ⟨hnumber, htext, hmeet⟩ := (hline hp hl).1 haccepts
    exact ⟨p, hp, hnumber, l, hl, htext, hmeet⟩
  · rintro ⟨p, hp, hnumber, l, hl, htext, hmeet⟩
    use p, hp
    apply List.any_eq_true.2 ⟨l, hl, (hline hp hl).2 ⟨hnumber, htext, hmeet⟩⟩

/-- A term that differs from a compiled one only within its band has the same left, right and top
edge, and equal bottom edges. -/
theorem SameBand.region (h : t.SameBand u) (hproper : t.rectangle.region.isProper = true) :
  u.rectangle.region.left = t.rectangle.region.left
    ∧ u.rectangle.region.right = t.rectangle.region.right
    ∧ (u.rectangle.region.top == t.rectangle.region.top) = true
    ∧ (u.rectangle.region.bottom == t.rectangle.region.bottom) = true
  := by
  obtain ⟨-, -, htop, hbottom⟩ := Rectangle.region_of_isProper hproper
  obtain ⟨-, hlower, hranklower⟩ := beq_iff_rank_eq.1 h.lower
  obtain ⟨-, hupper, hrankupper⟩ := beq_iff_rank_eq.1 h.upper
  obtain ⟨hnumber, -, hrankbottom⟩ := beq_iff_rank_eq.1 hbottom
  obtain ⟨hfirst, hsecond⟩ := isNaN_of_min_of_max hlower hupper
  have htop' : u.rectangle.region.top = u.rectangle.lower := lesser_eq_min hfirst hsecond
  obtain ⟨hnumber', -, hrankbottom'⟩ := beq_iff_rank_eq.1 (greater_beq_max hfirst hsecond)
  refine ⟨h.left.symm, h.right.symm, ?_, ?_⟩
  · rw [htop', htop]
    apply beq_iff_rank_eq.2 ⟨hlower, (beq_iff_rank_eq.1 h.lower).1, hranklower.symm⟩
  · apply beq_iff_rank_eq.2 ⟨hnumber', hnumber, _⟩
    rw [hrankbottom, hrankupper]
    exact hrankbottom'

/-- A term that differs from a compiled one only within its band is compiled too, and its filter
accepts the same documents. -/
theorem SameBand.exists_compile_eq_ok (h : t.SameBand u) {c : Condition} (hc : t.compile = .ok c) :
  ∃ c', u.compile = .ok c' ∧ ∀ d, c.accepts d = c'.accepts d
  := by
  obtain ⟨⟨htext, hpage, hzero, hproper⟩, rfl⟩ := compile_eq_ok_iff.1 hc
  obtain ⟨hleft, hright, htop, hbottom⟩ := h.region hproper
  have hproper' : u.rectangle.region.isProper = true := by
    rw [Region.isProper_iff] at hproper ⊢
    rw [hleft, hright, float_lt_congr htop hbottom]
    exact hproper
  have hbounds (corners : Corners) : (u.rectangle.region.bounds.all fun b => b.holds corners)
      = t.rectangle.region.bounds.all fun b => b.holds corners := by
    have hall (r : Region) : (r.bounds.all fun b => b.holds corners)
        = (decide (r.left ≤ corners.bottomRight.x) && (decide (corners.topLeft.x ≤ r.right)
          && (decide (r.top ≤ corners.bottomLeft.y)
            && (decide (corners.topRight.y ≤ r.bottom) && true)))) :=
      rfl
    rw [hall, hall, hleft, hright, decide_eq_decide.2 (float_le_congr_left htop),
      decide_eq_decide.2 (float_le_congr_right hbottom)]
  refine ⟨.line u.lineFilter, compile_eq_ok_iff.2 ⟨⟨?_, ?_, ?_, hproper'⟩, rfl⟩, ?_⟩
  · rw [← h.text]
    exact htext
  · rw [← h.pageNumber]
    exact hpage
  · rw [hright, float_beq_congr_left hbottom]
    exact hzero
  · intro d
    apply LineFilter.accepts_congr h.pageNumber h.text fun corners => (hbounds corners).symm

end SearchTerm

/-! ### Requests -/

/-- A request that is compiled accepts a document whose lines are made from boxes exactly if the
document belongs to its extent.  Any request of the same shape whose terms differ only within their
bands is compiled too, and accepts the same documents. -/
theorem SearchTree.accepts_iff_mem_extent {t : SearchTree} {filter : Filter}
    (h : t.compile = .ok filter) :
  (∀ d : Document, (∀ l ∈ d.lines, ∃ b, l.coordinates.corners = Corners.ofBox b) →
      (filter.accepts d = true ↔ d ∈ t.extent))
    ∧ ∀ u : SearchTree, Formula.Related SearchTerm.SameBand t u →
      ∃ filter' : Filter, u.compile = .ok filter' ∧ ∀ d, filter'.accepts d = filter.accepts d
  := by
  constructor
  · intro d hd
    classical
    have hholds : filter.holds (Condition.accepts d)
        = t.holds fun term => decide (d ∈ term.extent) := by
      apply Formula.holds_of_traverse_eq_ok _ h
      intro term c hc
      rw [Bool.eq_iff_iff, decide_eq_true_iff]
      apply term.accepts_iff_of_compile_eq_ok hc hd
    rw [Filter.accepts, hholds]
    apply Formula.holds_iff_mem_extent
    intro term
    apply decide_eq_true_iff
  · intro u hrelated
    have hterm (t u : SearchTerm) (c : Condition) (hband : t.SameBand u) (hc : t.compile = .ok c) :
        ∃ c', u.compile = .ok c' ∧ ∀ d, c.accepts d = c'.accepts d :=
      hband.exists_compile_eq_ok hc
    obtain ⟨filter', hfilter', hsame⟩ := hrelated.exists_traverse_eq_ok hterm h
    use filter', hfilter'
    intro d
    apply (hsame.holds_eq fun c c' hc => hc d).symm

/-- A rectangle touches a box that reaches beyond the page, with its two `y` in either order. -/
theorem SearchTree.accepts_iff_mem_extent_exchanged :
  ∃ (t : Float → Float → SearchTree) (d : Document) (filter filter' : Filter),
    t = (fun y y' => .and [.leaf ⟨"total", 2, ⟨⟨0, y⟩, ⟨1, y'⟩⟩⟩, .not [.or []]])
      ∧ d = ⟨"d", "b", "p.jpg",
        [⟨"p", 2, [⟨"l", "total", ⟨"c", Corners.ofBox ⟨1, 1, 9, 9⟩⟩⟩]⟩]⟩
      ∧ (t 1 0).compile = .ok filter ∧ (t (-0) 1).compile = .ok filter'
      ∧ filter.accepts d = true ∧ filter'.accepts d = true ∧ d ∈ (t 1 0).extent
  := by
  let t : Float → Float → SearchTree :=
    fun y y' => .and [.leaf ⟨"total", 2, ⟨⟨0, y⟩, ⟨1, y'⟩⟩⟩, .not [.or []]]
  let d : Document := ⟨"d", "b", "p.jpg",
    [⟨"p", 2, [⟨"l", "total", ⟨"c", Corners.ofBox ⟨1, 1, 9, 9⟩⟩⟩]⟩]⟩
  have hcompiled : (t 1 0).compile.isOk = true := by decide +kernel
  have hboxes : ∀ l ∈ d.lines, ∃ b, l.coordinates.corners = Corners.ofBox b := by
    intro l hl
    obtain rfl := List.mem_singleton.1 hl
    use ⟨1, 1, 9, 9⟩
  have hterm : d ∈ SearchTerm.extent ⟨"total", 2, ⟨⟨0, 1⟩, ⟨1, 0⟩⟩⟩ := by
    refine ⟨_, List.mem_singleton_self _, rfl, _, List.mem_singleton_self _, rfl, ⟨1, 1⟩, ?_, ?_⟩
    · refine ⟨⟨?_, ?_⟩, ?_, ?_⟩ <;> decide +kernel
    · refine ⟨⟨?_, ?_⟩, ?_, ?_⟩ <;> decide +kernel
  have hmem : d ∈ (t 1 0).extent := by
    refine ⟨hterm, ?_, trivial⟩
    rintro (h | h) <;> cases h
  have hrelated : Formula.Related SearchTerm.SameBand (t 1 0) (t (-0) 1) := by
    apply Formula.Related.and
    apply Formula.RelatedLists.cons
      (.leaf ⟨rfl, rfl, rfl, rfl, by decide +kernel, by decide +kernel⟩)
    apply Formula.RelatedLists.cons (.not (.cons (.or .nil) .nil)) .nil
  cases ht : (t 1 0).compile with
  | error e =>
    rw [ht] at hcompiled
    cases hcompiled
  | ok filter =>
    obtain ⟨hextent, hband⟩ := SearchTree.accepts_iff_mem_extent ht
    obtain ⟨filter', hu, hsame⟩ := hband (t (-0) 1) hrelated
    have haccepts : filter.accepts d = true := (hextent d hboxes).2 hmem
    refine ⟨t, d, filter, filter', rfl, rfl, ht, hu, haccepts, ?_, hmem⟩
    rw [hsame]
    exact haccepts

end ScanIndex
