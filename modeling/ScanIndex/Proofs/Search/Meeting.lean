import ScanIndex.Proofs.Formula
import ScanIndex.Search.Region
import ScanIndex.Transcript

/-!
# Requests met by blocks

A search term is met by blocks if one of the lines that a page of its number refers to has its text
and a box that overlaps its region (`SearchTerm.meets`).  A document that is made from blocks is
accepted by the filter of a request exactly if the blocks meet the request (`accepts_eq_meets`).
-/

namespace ScanIndex

/-- The box between the corners shares points with the region on both axes. -/
def Region.overlaps (r : Region) (c : Corners) : Bool :=
  r.left ≤ c.bottomRight.x && c.topLeft.x ≤ r.right
    && r.top ≤ c.bottomRight.y && c.topLeft.y ≤ r.bottom

/-- The line block has the text of the term, and its box, clamped into the page, overlaps the region
of the term. -/
def SearchTerm.meetsLine (t : SearchTerm) (line : Block) : Bool :=
  line.text = some t.text && t.rectangle.region.overlaps (Corners.ofBox (line.box.getD .zero))

/-- Some page of the number of the term refers to a line block that the term asks for. -/
def SearchTerm.meets (t : SearchTerm) (blocks : List Block) : Bool :=
  blocks.any fun page =>
    page.blockType = .page && page.pageNumber = t.pageNumber
      && page.children.any fun child => (Block.findLine? blocks child).any t.meetsLine

/-- The blocks meet a request. -/
def SearchTree.meets (t : SearchTree) (blocks : List Block) : Bool :=
  t.holds fun term => term.meets blocks

/-! ### Lines and pages -/

theorem Region.all_holds_ofBox (r : Region) (b : BoundingBox) :
  (r.bounds.all fun x => x.holds (Corners.ofBox b)) = r.overlaps (Corners.ofBox b)
  := by
  simp only [bounds, List.all_cons, List.all_nil, Bool.and_true, Bool.and_assoc, overlaps]
  rfl

/-- The filter for the lines of a term. -/
def SearchTerm.lineFilter (t : SearchTerm) : LineFilter :=
  ⟨t.pageNumber, t.text, t.rectangle.region.bounds⟩

namespace SearchTerm

variable {t : SearchTerm}

/-- A term is compiled exactly if it passes every check, and then stands for its filter. -/
theorem compile_eq_ok_iff {c : Condition} :
  t.compile = .ok c ↔ (t.text ≠ "" ∧ t.pageNumber ≠ 0
      ∧ (t.rectangle.region.right == 0 || t.rectangle.region.bottom == 0) = false
      ∧ t.rectangle.region.isProper = true)
    ∧ c = .line t.lineFilter
  := by
  rw [compile, validate]
  split
  next htext => simp [Except.map, htext]
  next htext =>
    split
    next hpage => simp [Except.map, hpage]
    next hpage =>
      split
      next hzero => simp [Except.map, hzero]
      next hzero =>
        split
        next hproper =>
          rw [Bool.not_eq_true] at hzero
          simp only [Except.map, Except.ok.injEq, htext, hpage, hzero, hproper, ne_eq,
            not_false_eq_true, true_and]
          exact eq_comm
        next hproper => simp [Except.map, hproper]

theorem acceptsLine_ofBlock (ht : t.text ≠ "") (p : Page) (ids : Supply) (n : Nat) (b : Block) :
  t.lineFilter.acceptsLine p (Line.ofBlock ids n b)
    = (decide (p.number = t.pageNumber) && t.meetsLine b)
  := by
  have htext : b.text.getD "" = t.text ↔ b.text = some t.text := by
    cases b.text with
    | none => simp [ht.symm]
    | some s => simp
  simp only [LineFilter.acceptsLine, lineFilter, Line.ofBlock, Region.all_holds_ofBox, htext,
    meetsLine, Bool.and_assoc]
  rfl

theorem any_linesOfBlocks (ht : t.text ≠ "") (p : Page) (ids : Supply) (n : Nat) (bs : List Block) :
  ((linesOfBlocks ids n bs).any fun l => t.lineFilter.acceptsLine p l)
    = (decide (p.number = t.pageNumber) && bs.any t.meetsLine)
  := by
  induction bs generalizing n with
  | nil => simp [linesOfBlocks]
  | cons b bs ih =>
    rw [linesOfBlocks, List.any_cons, ih, acceptsLine_ofBlock ht, List.any_cons,
      Bool.and_or_distrib_left]

theorem any_pagesOfBlocks (ht : t.text ≠ "") (ids : Supply) (blocks : List Block) (n : Nat)
    (ps : List Block) :
  ((pagesOfBlocks ids blocks n ps).1.any fun p => p.lines.any fun l => t.lineFilter.acceptsLine p l)
    = ps.any fun page => decide (page.pageNumber = t.pageNumber)
        && (page.childLines blocks).any t.meetsLine
  := by
  induction ps generalizing n with
  | nil => rfl
  | cons page ps ih =>
    have hrest := ih (n + 1 + 2 * (page.childLines blocks).length)
    simp only [pagesOfBlocks, List.any_cons, hrest, any_linesOfBlocks ht]

/-- A document with the pages that are made from blocks is accepted by the filter of a term exactly
if the blocks meet the term. -/
theorem accepts_lineFilter_eq (ht : t.text ≠ "") {d : Document} {ids : Supply} {n : Nat} {f : File}
    {blocks : List Block} (hd : d.pages = (Document.ofBlocks ids n f blocks).1.pages) :
  t.lineFilter.accepts d = t.meets blocks
  := by
  have hpages : (Document.ofBlocks ids n f blocks).1.pages
      = (pagesOfBlocks ids blocks n (blocks.filter fun b => b.blockType = .page)).1 := rfl
  rw [LineFilter.accepts, hd, hpages, any_pagesOfBlocks ht, List.any_filter, meets]
  congr 1
  funext page
  rw [Block.childLines, List.any_filterMap, Bool.and_assoc]
  rfl

end SearchTerm

/-! ### Requests -/

/-- A document with the pages that are made from blocks is accepted by the filter of a request
exactly if the blocks meet the request. -/
theorem SearchTree.accepts_eq_meets {t : SearchTree} {filter : Filter} (h : t.compile = .ok filter)
    {d : Document} {ids : Supply} {n : Nat} {f : File} {blocks : List Block}
    (hd : d.pages = (Document.ofBlocks ids n f blocks).1.pages) :
  filter.accepts d = t.meets blocks
  := by
  apply Formula.holds_of_traverse_eq_ok _ h
  intro term c hc
  obtain ⟨⟨htext, -⟩, rfl⟩ := SearchTerm.compile_eq_ok_iff.1 hc
  apply SearchTerm.accepts_lineFilter_eq htext hd

end ScanIndex
