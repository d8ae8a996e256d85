import ScanIndex.Proofs.Indexing.Drawing
import ScanIndex.Proofs.Redrawing
import ScanIndex.Proofs.Transcript

/-!
# Documents written out as blocks

If no two lines of a document have the same identifier, the blocks that the document is written out
as refer to each line just once, on the page that it is on (`childLines_toBlocks`), whatever the
identifiers of the pages are.  A document that is made from these blocks says the same as the first
one, the corners of the lines being drawn once more (`tree_ofBlocks_toBlocks`).

Documents that are made from blocks are of that kind, and drawing the corners of their lines once
more with exact arithmetic changes nothing (`ofBlocks_toBlocks`).
-/

namespace ScanIndex

/-- What a document says, with `f` of the corners of each line in their place. -/
def Document.treeBy {β : Type} (f : Corners → β) (d : Document) :
    List (Int64 × List (String × β)) :=
  d.pages.map fun p => (p.number, p.lines.map fun l => (l.text, f l.coordinates.corners))

/-- The block of a line of a document. -/
def Line.toBlock (l : Line) : Block := Block.ofLine l.id l.text l.coordinates.corners.toBox

/-- The block of a page of a document. -/
def Page.toBlock (p : Page) : Block := Block.ofPage p.id p.number (p.lines.map Line.id)

namespace Document

variable {d : Document} {b : Block} {l : Line} {p : Page}

/-! ### Blocks of a document -/

/-- The line blocks of a document are those of its lines. -/
theorem line_mem_toBlocks_iff :
  b ∈ d.toBlocks ∧ b.blockType = .line ↔ ∃ l ∈ d.lines, l.toBlock = b
  := by
  simp only [toBlocks, pageBlocks, lines, List.mem_flatMap, List.mem_cons, List.mem_map]
  constructor
  · rintro ⟨⟨p, hp, rfl | ⟨l, hl, rfl⟩⟩, hline⟩
    · cases hline
    · exact ⟨l, ⟨p, hp, hl⟩, rfl⟩
  · rintro ⟨l, ⟨p, hp, hl⟩, rfl⟩
    exact ⟨⟨p, hp, .inr ⟨l, hl, rfl⟩⟩, rfl⟩

/-- The page blocks of a document are those of its pages, in order. -/
theorem filter_page_toBlocks (d : Document) :
  (d.toBlocks.filter fun b => b.blockType = .page) = d.pages.map Page.toBlock
  := by
  rw [toBlocks, List.filter_flatMap, ← List.flatMap_pure_eq_map]
  congr 1
  funext p
  have hlines : ((p.lines.map fun l => Block.ofLine l.id l.text l.coordinates.corners.toBox).filter
      fun b => b.blockType = .page) = [] := by
    simp [List.filter_eq_nil_iff, Block.ofLine]
  rw [pageBlocks, List.filter_cons_of_pos (by rfl), hlines]
  rfl

/-- The block that is found for the identifier of a line is that of the line, if no other line has
it. -/
theorem findLine?_toBlocks (hnodup : (d.lines.map Line.id).Nodup) (hl : l ∈ d.lines) :
  Block.findLine? d.toBlocks l.id = some l.toBlock
  := by
  obtain ⟨hmem, hline⟩ := line_mem_toBlocks_iff.2 ⟨l, hl, rfl⟩
  cases hfound : Block.findLine? d.toBlocks l.id with
  | none =>
    rw [Block.findLine?, List.find?_eq_none] at hfound
    cases hfound l.toBlock (List.mem_reverse.2 hmem) (by simp [Line.toBlock, Block.ofLine])
  | some b =>
    rw [Block.findLine?] at hfound
    have hb := List.find?_some hfound
    rw [Bool.and_eq_true, decide_eq_true_eq, decide_eq_true_eq] at hb
    have hmem' := List.mem_reverse.1 (List.mem_of_find?_eq_some hfound)
    obtain ⟨k, hk, rfl⟩ := line_mem_toBlocks_iff.1 ⟨hmem', hb.1⟩
    rw [List.inj_on_of_nodup_map hnodup hk hl hb.2]

/-- The block of a page refers to the blocks of the lines that are on the page. -/
theorem childLines_toBlocks (hnodup : (d.lines.map Line.id).Nodup) (hp : p ∈ d.pages) :
  p.toBlock.childLines d.toBlocks = p.lines.map Line.toBlock
  := by
  have hfound : ∀ l ∈ p.lines, (Block.findLine? d.toBlocks ∘ Line.id) l = some l.toBlock := by
    intro l hl
    apply findLine?_toBlocks hnodup (List.mem_flatMap.2 ⟨p, hp, hl⟩)
  change (p.lines.map Line.id).filterMap (Block.findLine? d.toBlocks) = _
  rw [List.filterMap_map, List.filterMap_congr hfound, List.filterMap_eq_map']

/-- A document that is made from the blocks of another one says what that says, with the corners
drawn once more. -/
theorem tree_ofBlocks_toBlocks (ids : Supply) (n : Nat) (f : File)
    (hnodup : (d.lines.map Line.id).Nodup) (hnumber : ∀ p ∈ d.pages, 1 ≤ p.number) :
  (ofBlocks ids n f d.toBlocks).1.tree = d.treeBy fun c => Corners.ofBox c.toBox
  := by
  rw [tree_ofBlocks, Block.trees, filter_page_toBlocks, List.map_map, treeBy]
  apply List.map_congr_left
  intro p hp
  have hpage : p.toBlock.pageNumber = p.number := if_pos (hnumber p hp)
  rw [Function.comp_apply, Block.tree, hpage, childLines_toBlocks hnodup hp, List.map_map]
  rfl

/-! ### Documents from blocks -/

theorem one_le_pageNumber (b : Block) :
  1 ≤ b.pageNumber
  := by
  rw [Block.pageNumber]
  split
  next n =>
    split
    next hn => exact hn
    next => decide
  next => decide

variable {ids : Supply} {n : Nat} {f : File} {blocks : List Block}

/-- A page of a document that is made from blocks says what one of the page blocks does. -/
theorem exists_tree_eq_of_mem_pages (hp : p ∈ (ofBlocks ids n f blocks).1.pages) :
  ∃ b, p.tree = Block.tree blocks b
  := by
  have htree : p.tree ∈ (ofBlocks ids n f blocks).1.tree := List.mem_map_of_mem hp
  rw [tree_ofBlocks] at htree
  obtain ⟨b, -, hb⟩ := List.mem_map.1 htree
  exact ⟨b, hb.symm⟩

theorem one_le_number_of_mem_pages (hp : p ∈ (ofBlocks ids n f blocks).1.pages) :
  1 ≤ p.number
  := by
  obtain ⟨b, hb⟩ := exists_tree_eq_of_mem_pages hp
  have hnumber : p.number = b.pageNumber := congrArg Prod.fst hb
  rw [hnumber]
  apply one_le_pageNumber

/-- The corners of a line of a document that is made from blocks have been drawn from a box. -/
theorem exists_corners_eq_ofBox (hp : p ∈ (ofBlocks ids n f blocks).1.pages) (hl : l ∈ p.lines) :
  ∃ b, l.coordinates.corners = Corners.ofBox b
  := by
  obtain ⟨page, hpage⟩ := exists_tree_eq_of_mem_pages hp
  have hsaid : (l.text, l.coordinates.corners) ∈ p.tree.2 := List.mem_map_of_mem hl
  rw [hpage] at hsaid
  obtain ⟨b, -, hb⟩ := List.mem_map.1 hsaid
  exact ⟨_, (congrArg Prod.snd hb).symm⟩

theorem treeBy_congr {β : Type} {g g' : Corners → β}
    (h : ∀ p ∈ d.pages, ∀ l ∈ p.lines, g l.coordinates.corners = g' l.coordinates.corners) :
  d.treeBy g = d.treeBy g'
  := by
  apply List.map_congr_left
  intro p hp
  congr 1
  apply List.map_congr_left
  intro l hl
  rw [h p hp l hl]

theorem nodup_lines_ofBlocks (hids : Function.Injective ids) :
  ((ofBlocks ids n f blocks).1.lines.map Line.id).Nodup
  := by
  rw [← idsBelow_line]
  apply (DrawnFrom.ofBlocks ids n f blocks .line).nodup hids

open Arithmetic

/-- A document with lines of different identifiers, and with pages that are numbered from one on, is
made from the blocks that it is written out as, but for identifiers, and for its corners, which are
drawn once more.  A document that is made from blocks is such a document, and with exact arithmetic
its corners, too, are the same. -/
theorem ofBlocks_toBlocks :
  (∀ (ids : Supply) (n : Nat) (f : File) (d : Document), (d.lines.map Line.id).Nodup →
      (∀ p ∈ d.pages, 1 ≤ p.number) →
        (ofBlocks ids n f d.toBlocks).1.file = f
        ∧ (ofBlocks ids n f d.toBlocks).1.tree = d.treeBy fun c => Corners.ofBox c.toBox)
    ∧ (∀ (ids : Supply) (n : Nat) (f : File) (blocks : List Block) (d : Document),
      Function.Injective ids →
        (ofBlocks ids n f blocks).1 = d →
          (d.lines.map Line.id).Nodup ∧ (∀ p ∈ d.pages, 1 ≤ p.number)
          ∧ (d.treeBy fun c => exact.redraw (c.edges.map value))
            = (d.treeBy fun c => c.edges.map value)
          ∧ (d.treeBy fun c => c.edges.corners) = d.tree)
    ∧ (∀ c : Corners, Corners.ofBox c.toBox = (binary64.redraw c.edges).corners)
    ∧ ∀ left top width height : ℚ,
        exact.redraw (exact.draw left top width height) = exact.draw left top width height
  := by
  refine ⟨?_, ?_, Corners.ofBox_toBox_eq_redraw, redraw_draw⟩
  · intro ids n f d hnodup hnumber
    exact ⟨file_ofBlocks ids n f _, tree_ofBlocks_toBlocks ids n f hnodup hnumber⟩
  · rintro ids n f blocks d hids rfl
    refine ⟨nodup_lines_ofBlocks hids, fun p hp => one_le_number_of_mem_pages hp, ?_, ?_⟩
    · apply treeBy_congr
      intro p hp l hl
      obtain ⟨b, hb⟩ := exists_corners_eq_ofBox hp hl
      rw [hb]
      apply redraw_edges_ofBox
    · change _ = treeBy (fun c => c) _
      apply treeBy_congr
      intro p hp l hl
      obtain ⟨b, hb⟩ := exists_corners_eq_ofBox hp hl
      rw [hb]
      rfl

/-- Pages under the identifiers of lines, and of each other, keep their lines. -/
theorem ofBlocks_toBlocks_coinciding :
  ∃ d e : Document,
    d = ⟨"d", "b", "k", [
      ⟨"x", 1, [
        ⟨"x", "one", "c", Corners.ofBox ⟨0.25, 0, 0.5, 1⟩⟩,
        ⟨"y", "two", "c", Corners.ofBox .zero⟩]⟩,
      ⟨"x", 1, [⟨"z", "one", "z", Corners.ofBox ⟨0, 0.125, 2, 2⟩⟩]⟩,
      ⟨"y", 9, []⟩]⟩
    ∧ (ofBlocks .strokes 0 ⟨"b", "k"⟩ d.toBlocks).1 = e
    ∧ e.tree = d.tree
    ∧ (e.treeBy fun c => exact.redraw (c.edges.map value)) = (e.treeBy fun c => c.edges.map value)
  := by
  refine ⟨_, _, rfl, rfl, ?_, ?_⟩
  · apply (ofBlocks_toBlocks.1 .strokes 0 ⟨"b", "k"⟩ _ (by decide) (by decide)).2.trans
    decide +kernel
  · apply (ofBlocks_toBlocks.2.1 .strokes 0 ⟨"b", "k"⟩ _ _ Supply.strokes_injective rfl).2.2.1

end Document

end ScanIndex
