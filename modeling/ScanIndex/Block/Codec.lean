import ScanIndex.Block
import ScanIndex.Json.Decode

/-!
# Blocks as JSON

The decoder of blocks.  A kind of block is given by its name, or by an object whose only field has
that name and is null.
-/

namespace ScanIndex

/-- Read a kind of block. -/
def BlockType.decoder : Decoder BlockType
  | .string s => .ok (.ofName s)
  | .object [(k, .null)] => .ok (.ofName k)
  | .object [(_, j)] => .error (.wrongType j .unit)
  | .object fields => .error (.wrongValue (.object fields) .singleKeyMap)
  | j => .error (.wrongType j .stringOrMap)

/-- Read a box. -/
def BoundingBox.decoder : Decoder BoundingBox :=
  Record.decoder "BoundingBox"
    (((((Record.pure BoundingBox.mk).ap
      (.field "left" .float)).ap
      (.field "top" .float)).ap
      (.field "width" .float)).ap
      (.field "height" .float))

/-- Read a block. -/
def Block.decoder : Decoder Block :=
  Record.decoder "Block"
    (((((((Record.pure Block.mk).ap
      (.field "id" .string)).ap
      (.field "block_type" BlockType.decoder)).ap
      (.fieldD "page" (.optional .int64) none)).ap
      (.fieldD "text" (.optional .string) none)).ap
      (.fieldD "bounding_box" (.optional BoundingBox.decoder) none)).ap
      (.fieldD "children" (.list .string) []))

end ScanIndex
