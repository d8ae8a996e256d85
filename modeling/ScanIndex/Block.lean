import ScanIndex.Geometry

/-!
# Blocks

The flat output of text recognition: a list of `Block`s.  A page block refers to the blocks on it by
their identifiers, and a line block carries text and a box.
-/

namespace ScanIndex

/-- What a block describes. -/
inductive BlockType where
  | page
  | line
  | other
deriving DecidableEq

/-- The name of a kind of block. -/
def BlockType.name : BlockType → String
  | page => "PAGE"
  | line => "LINE"
  | other => "OTHER"

/-- The kind of block of a given name; every unknown name is another kind. -/
def BlockType.ofName (s : String) : BlockType :=
  if s = "PAGE" then page else if s = "LINE" then line else other

/-- One block. -/
structure Block where
  id : String
  blockType : BlockType
  /-- The number of the page, where it is reported. -/
  page : Option Int64
  text : Option String
  box : Option BoundingBox
  /-- The identifiers of the blocks that this block refers to. -/
  children : List String
deriving DecidableEq

namespace Block

/-- The block of a page. -/
def ofPage (id : String) (number : Int64) (children : List String) : Block :=
  ⟨id, .page, some number, none, none, children⟩

/-- The block of a line. -/
def ofLine (id text : String) (box : BoundingBox) : Block :=
  ⟨id, .line, none, some text, some box, []⟩

end Block

end ScanIndex
