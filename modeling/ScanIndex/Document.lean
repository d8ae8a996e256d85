import ScanIndex.Geometry

/-!
# Documents

A `Document` is the indexed form of one file: its pages in order, each with its lines of text, each
with its corners on the page.  Documents, pages, lines and corners carry identifiers of their own.
-/

namespace ScanIndex

/-- A file of the object store: a key in a bucket. -/
structure File where
  bucket : String
  key : String
deriving DecidableEq

/-- A file as one path. -/
def File.path (f : File) : String := f.bucket ++ "/" ++ f.key

/-- The corners of a line under their identifier. -/
structure Coordinates where
  id : String
  corners : Corners
deriving DecidableEq

/-- A line of text, exactly as it was recognised. -/
structure Line where
  id : String
  text : String
  coordinates : Coordinates
deriving DecidableEq

/-- A page; pages are numbered from one. -/
structure Page where
  id : String
  number : Int64
  lines : List Line
deriving DecidableEq

/-- The indexed form of one file. -/
structure Document where
  id : String
  bucket : String
  key : String
  pages : List Page
deriving DecidableEq

namespace Document

/-- The file that a document is made from. -/
def file (d : Document) : File := ⟨d.bucket, d.key⟩

/-- The document is made from the given file. -/
def isFile (d : Document) (f : File) : Bool := d.bucket = f.bucket && d.key = f.key

theorem isFile_iff {d : Document} {f : File} :
  d.isFile f = true ↔ d.file = f
  := by
  cases f
  simp [isFile, file]

/-- The lines of a document, page by page. -/
def lines (d : Document) : List Line := d.pages.flatMap Page.lines

/-- The number of lines of a document. -/
def lineCount (d : Document) : Nat := d.lines.length

end Document

end ScanIndex
