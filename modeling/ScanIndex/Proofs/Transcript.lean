import Mathlib.Data.List.Nodup
import Mathlib.Data.List.Range
import ScanIndex.Transcript

/-!
# What a document says

A document that is made from blocks says of each page block its number, and the texts and corners of
the line blocks that it refers to (`Document.tree_ofBlocks`).  Nothing else of the blocks has an
effect on the document (`Document.ofBlocks_congr`).  Its nodes take one identifier after the other,
in the order of `Document.nodeIds` (`Document.nodeIds_ofBlocks`).
-/

namespace ScanIndex

/-! ### Trees -/

/-- What a page says, without identifiers. -/
def Page.tree (p : Page) : Int64 × List (String × Corners) :=
  (p.number, p.lines.map fun l => (l.text, l.coordinates.corners))

/-- What a document says, page by page, without identifiers. -/
def Document.tree (d : Document) : List (Int64 × List (String × Corners)) := d.pages.map Page.tree

namespace Block

/-- What a line block says. -/
def said (b : Block) : String × Corners := (b.text.getD "", Corners.ofBox (b.box.getD .zero))

/-- What a page block says. -/
def tree (blocks : List Block) (page : Block) : Int64 × List (String × Corners) :=
  (page.pageNumber, (page.childLines blocks).map said)

/-- What blocks say, page block by page block. -/
def trees (blocks : List Block) : List (Int64 × List (String × Corners)) :=
  (blocks.filter fun b => b.blockType = .page).map (tree blocks)

end Block

section

variable (ids : Supply) (n : Nat)

theorem map_linesOfBlocks (bs : List Block) :
  (linesOfBlocks ids n bs).map (fun l => (l.text, l.coordinates.corners)) = bs.map Block.said
  := by
  induction bs generalizing n with
  | nil => rfl
  | cons b bs ih =>
    rw [linesOfBlocks, List.map_cons, ih]
    rfl

theorem map_tree_pagesOfBlocks (blocks ps : List Block) :
  (pagesOfBlocks ids blocks n ps).1.map Page.tree = ps.map (Block.tree blocks)
  := by
  induction ps generalizing n with
  | nil => rfl
  | cons p ps ih =>
    rw [pagesOfBlocks, List.map_cons, ih, Page.tree, map_linesOfBlocks]
    rfl

/-- A document says what the blocks do that it is made from. -/
theorem Document.tree_ofBlocks (f : File) (blocks : List Block) :
  (Document.ofBlocks ids n f blocks).1.tree = Block.trees blocks
  := map_tree_pagesOfBlocks ids n blocks _

/-! ### Blocks that say the same -/

theorem linesOfBlocks_congr {bs bs' : List Block} (h : bs.map Block.said = bs'.map Block.said) :
  linesOfBlocks ids n bs = linesOfBlocks ids n bs'
  := by
  induction bs generalizing n bs' with
  | nil =>
    rw [List.map_nil, eq_comm, List.map_eq_nil_iff] at h
    rw [h]
  | cons b bs ih =>
    obtain ⟨b', bs', rfl, hb, hbs⟩ := List.map_eq_cons_iff.1 h.symm
    obtain ⟨htext, hcorners⟩ := Prod.mk.inj hb
    rw [linesOfBlocks, linesOfBlocks, ih _ hbs.symm, Line.ofBlock, Line.ofBlock, htext, hcorners]

theorem pagesOfBlocks_congr {blocks blocks' ps ps' : List Block}
    (h : ps.map (Block.tree blocks) = ps'.map (Block.tree blocks')) :
  pagesOfBlocks ids blocks n ps = pagesOfBlocks ids blocks' n ps'
  := by
  induction ps generalizing n ps' with
  | nil =>
    rw [List.map_nil, eq_comm, List.map_eq_nil_iff] at h
    rw [h]
    rfl
  | cons p ps ih =>
    obtain ⟨p', ps', rfl, hp, hps⟩ := List.map_eq_cons_iff.1 h.symm
    obtain ⟨hnumber, hlines⟩ := Prod.mk.inj hp
    have hlength := congrArg List.length hlines
    rw [List.length_map, List.length_map] at hlength
    rw [pagesOfBlocks, pagesOfBlocks, linesOfBlocks_congr ids _ hlines.symm, hnumber, hlength,
      ih _ hps.symm]

/-- Blocks that say the same make the same document. -/
theorem Document.ofBlocks_congr (f : File) {blocks blocks' : List Block}
    (h : Block.trees blocks = Block.trees blocks') :
  Document.ofBlocks ids n f blocks = Document.ofBlocks ids n f blocks'
  := by
  rw [Document.ofBlocks, pagesOfBlocks_congr ids n h]
  rfl

end

/-! ### Identifiers of nodes -/

/-- The identifiers of a page, of its lines and of their corners. -/
def Page.nodeIds (p : Page) : List String :=
  p.id :: p.lines.flatMap fun l => [l.id, l.coordinates.id]

/-- The identifiers of all nodes of a document, its own last. -/
def Document.nodeIds (d : Document) : List String := d.pages.flatMap Page.nodeIds ++ [d.id]

section

variable (ids : Supply) (n : Nat)

theorem length_linesOfBlocks (bs : List Block) :
  (linesOfBlocks ids n bs).length = bs.length
  := by
  induction bs generalizing n with
  | nil => rfl
  | cons b bs ih => rw [linesOfBlocks, List.length_cons, ih, List.length_cons]

theorem nodeIds_linesOfBlocks (bs : List Block) :
  ((linesOfBlocks ids n bs).flatMap fun l => [l.id, l.coordinates.id])
    = (List.range' n (2 * bs.length)).map ids
  := by
  induction bs generalizing n with
  | nil => rfl
  | cons b bs ih =>
    have hlength : 2 * (b :: bs).length = 2 * bs.length + 1 + 1 := by
      rw [List.length_cons]
      omega
    rw [linesOfBlocks, List.flatMap_cons, ih, hlength, List.range'_succ, List.range'_succ]
    rfl

theorem nodeIds_page (number : Int64) (bs : List Block) :
  (⟨ids n, number, linesOfBlocks ids (n + 1) bs⟩ : Page).nodeIds
    = (List.range' n (1 + 2 * bs.length)).map ids
  := by
  rw [Page.nodeIds, nodeIds_linesOfBlocks, Nat.add_comm 1, List.range'_succ, List.map_cons]

theorem nodeCount_cons (p : Page) (ps : List Page) :
  (p :: ps).length + 2 * ((p :: ps).flatMap Page.lines).length
    = 1 + 2 * p.lines.length + (ps.length + 2 * (ps.flatMap Page.lines).length)
  := by
  rw [List.length_cons, List.flatMap_cons, List.length_append]
  omega

/-- The nodes of pages take one identifier after the other, one for each page and two for
each line. -/
theorem nodeIds_pagesOfBlocks (blocks ps : List Block) {pages : List Page} {k : Nat}
    (h : pagesOfBlocks ids blocks n ps = (pages, k)) :
  k = n + (pages.length + 2 * (pages.flatMap Page.lines).length)
    ∧ pages.flatMap Page.nodeIds
      = (List.range' n (pages.length + 2 * (pages.flatMap Page.lines).length)).map ids
  := by
  induction ps generalizing n pages k with
  | nil =>
    cases h
    exact ⟨rfl, rfl⟩
  | cons p ps ih =>
    cases hrest : pagesOfBlocks ids blocks (n + 1 + 2 * (p.childLines blocks).length) ps with
    | mk rest j =>
      obtain ⟨hj, hids⟩ := ih _ hrest
      simp only [pagesOfBlocks, hrest] at h
      cases h
      rw [nodeCount_cons, length_linesOfBlocks]
      constructor
      · omega
      · rw [List.flatMap_cons, nodeIds_page, hids, ← List.map_append, Nat.add_assoc,
          List.range'_append_1]

/-- The nodes of a document take one identifier after the other: its own, one for each page and two
for each line. -/
theorem Document.nodeIds_ofBlocks (f : File) (blocks : List Block) {d : Document} {k : Nat}
    (h : Document.ofBlocks ids n f blocks = (d, k)) :
  k = n + (1 + d.pages.length + 2 * d.lineCount)
    ∧ d.nodeIds = (List.range' n (1 + d.pages.length + 2 * d.lineCount)).map ids
  := by
  cases hpages : pagesOfBlocks ids blocks n (blocks.filter fun b => b.blockType = .page) with
  | mk pages j =>
    obtain ⟨hj, hids⟩ := nodeIds_pagesOfBlocks ids n blocks _ hpages
    rw [Document.ofBlocks, hpages] at h
    cases h
    have hcount : 1 + pages.length + 2 * (pages.flatMap Page.lines).length
        = pages.length + 2 * (pages.flatMap Page.lines).length + 1 := by
      omega
    change j + 1 = n + (1 + pages.length + 2 * (pages.flatMap Page.lines).length)
      ∧ pages.flatMap Page.nodeIds ++ [ids j]
        = (List.range' n (1 + pages.length + 2 * (pages.flatMap Page.lines).length)).map ids
    rw [hcount]
    constructor
    · omega
    · rw [hids, List.range'_1_concat, List.map_append, hj]
      rfl

end

end ScanIndex
