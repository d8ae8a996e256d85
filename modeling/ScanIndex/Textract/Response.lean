import ScanIndex.Block.Codec
import ScanIndex.Json.Reader

/-!
# Answers of Textract

The answer to a request is a list of blocks in an encoding of its own, in which a block refers to
others by relationships of several kinds.  `Response.toBlocks` keeps those of the kind `CHILD`.
-/

namespace ScanIndex.Textract

/-- A reference from a block to others. -/
structure Relationship where
  kind : String
  ids : List String

/-- A block of an answer. -/
structure ResponseBlock where
  blockType : BlockType
  id : String
  page : Option Int64
  text : Option String
  box : Option BoundingBox
  relationships : List Relationship

/-- An answer. -/
structure Response where
  blocks : List ResponseBlock

/-- Read a box. -/
def boxDecoder : Decoder BoundingBox :=
  Record.decoder "TextractBox"
    (((((Record.pure BoundingBox.mk).ap
      (.field "Left" .float)).ap
      (.field "Top" .float)).ap
      (.field "Width" .float)).ap
      (.field "Height" .float))

/-- A field that may be missing from an object and may be null, but must stand in an array. -/
def nullableField {α : Type} (name : String) (value : Decoder α) : Record (Option α) :=
  .one name (.optional value) (some none) none

/-- Read the box of a block, if it has one. -/
def geometryDecoder : Decoder (Option BoundingBox) :=
  Record.decoder "Geometry" ((Record.pure id).ap (nullableField "BoundingBox" boxDecoder))

/-- Read a relationship. -/
def Relationship.decoder : Decoder Relationship :=
  Record.decoder "Relationship"
    (((Record.pure Relationship.mk).ap
      (.field "Type" .string)).ap
      (.fieldD "Ids" (.list .string) []))

/-- Read a block. -/
def ResponseBlock.decoder : Decoder ResponseBlock :=
  Record.decoder "TextractBlock"
    (((((((Record.pure fun blockType id page text box relationships =>
        ResponseBlock.mk blockType id page text (Option.join box) relationships).ap
      (.field "BlockType" BlockType.decoder)).ap
      (.field "Id" .string)).ap
      (.fieldD "Page" (.optional .int64) none)).ap
      (.fieldD "Text" (.optional .string) none)).ap
      (.fieldD "Geometry" (.optional geometryDecoder) none)).ap
      (.fieldD "Relationships" (.list Relationship.decoder) []))

namespace Response

/-- Read an answer. -/
def decoder : Decoder Response :=
  Record.decoder "DetectResponse"
    ((Record.pure Response.mk).ap (.fieldD "Blocks" (.list ResponseBlock.decoder) []))

/-- Read an answer from a text; a field that is given twice is an error. -/
def parse? (text : String) : Option Response :=
  match Json.read? text with
  | none => none
  | some j => (decoder j).toOption

end Response

/-- The identifiers that relationships of the kind `CHILD` list, in their order. -/
def childIds (rs : List Relationship) : List String :=
  (rs.filter fun r => r.kind = "CHILD").flatMap Relationship.ids

/-- A block of an answer as a block. -/
def ResponseBlock.toBlock (b : ResponseBlock) : Block :=
  ⟨b.id, b.blockType, b.page, b.text, b.box, childIds b.relationships⟩

/-- The blocks of an answer. -/
def Response.toBlocks (r : Response) : List Block := r.blocks.map ResponseBlock.toBlock

end ScanIndex.Textract
