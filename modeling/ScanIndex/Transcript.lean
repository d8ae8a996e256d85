import ScanIndex.Block
import ScanIndex.Document

/-!
# Documents from blocks and back

`Document.ofBlocks` folds a list of blocks into a document: a page for every page block, in order,
and on it a line for every reference that names a line block.  Identifiers are drawn from a `Supply`
from a given place on, and the place behind the last one is returned.  `Document.toBlocks` writes
out a document as blocks again.
-/

namespace ScanIndex

/-- A supply of identifiers. -/
abbrev Supply := Nat → String

namespace Block

/-- The last line block that carries the identifier. -/
def findLine? (blocks : List Block) (id : String) : Option Block :=
  blocks.reverse.find? fun b => b.blockType = .line && b.id = id

/-- The line blocks that a block refers to; references that name no line block are passed over. -/
def childLines (page : Block) (blocks : List Block) : List Block :=
  page.children.filterMap (findLine? blocks)

/-- The number of a page: the one that is reported if it is at least one, and one otherwise. -/
def pageNumber (page : Block) : Int64 :=
  match page.page with
  | some n => if 1 ≤ n then n else 1
  | none => 1

end Block

/-- The line of a line block, with the identifiers at places `n` and `n + 1`. -/
def Line.ofBlock (ids : Supply) (n : Nat) (b : Block) : Line where
  id := ids n
  text := b.text.getD ""
  coordinates := ⟨ids (n + 1), Corners.ofBox (b.box.getD .zero)⟩

/-- The lines of line blocks, with identifiers from place `n` on. -/
def linesOfBlocks (ids : Supply) : (n : Nat) → List Block → List Line
  | _, [] => []
  | n, b :: bs => Line.ofBlock ids n b :: linesOfBlocks ids (n + 2) bs

/-- The pages of page blocks, with identifiers from place `n` on, and the place behind the last
one. -/
def pagesOfBlocks (ids : Supply) (blocks : List Block) : (n : Nat) → List Block → List Page × Nat
  | n, [] => ([], n)
  | n, p :: ps =>
    let children := p.childLines blocks
    let page : Page := ⟨ids n, p.pageNumber, linesOfBlocks ids (n + 1) children⟩
    let (pages, n) := pagesOfBlocks ids blocks (n + 1 + 2 * children.length) ps
    (page :: pages, n)

namespace Document

/-- The document of a file whose recognition gave the blocks, with identifiers from place `n` on,
and the place behind the last one. -/
def ofBlocks (ids : Supply) (n : Nat) (file : File) (blocks : List Block) : Document × Nat :=
  let (pages, n) := pagesOfBlocks ids blocks n (blocks.filter fun b => b.blockType = .page)
  (⟨ids n, file.bucket, file.key, pages⟩, n + 1)

/-- The blocks of a page: its own, then those of its lines. -/
def pageBlocks (p : Page) : List Block :=
  Block.ofPage p.id p.number (p.lines.map Line.id)
    :: p.lines.map fun l => Block.ofLine l.id l.text l.coordinates.corners.toBox

/-- The blocks of a document, page by page. -/
def toBlocks (d : Document) : List Block := d.pages.flatMap pageBlocks

end Document

end ScanIndex
