/-!
# Points, boxes and corners

A page is the unit square, with `y` growing downwards.  A `BoundingBox` is given by its left and top
edges and its extent, `Corners` by its four corner points.  `Corners.ofBox` clamps the edges of a
box into the unit square, and `Corners.toBox` reads a box off two corners.
-/

namespace ScanIndex

/-- A point of a page. -/
structure Point where
  x : Float
  y : Float
deriving DecidableEq

/-- A box given by its top left corner and its extent. -/
structure BoundingBox where
  left : Float
  top : Float
  width : Float
  height : Float
deriving DecidableEq

/-- The box without extent at the origin. -/
def BoundingBox.zero : BoundingBox := ⟨0, 0, 0, 0⟩

/-- The four corners of a box. -/
structure Corners where
  topLeft : Point
  topRight : Point
  bottomLeft : Point
  bottomRight : Point
deriving DecidableEq

/-- The number of the unit interval that is nearest to `v`; it is zero if `v` is no number. -/
def clampUnit (v : Float) : Float :=
  if v.isNaN then 0 else if v < 0 then 0 else if 1 < v then 1 else v

/-- The lesser of two numbers; one that is no number is passed over. -/
def lesser (a b : Float) : Float :=
  if a.isNaN then b else if b.isNaN then a else if b < a then b else a

/-- The greater of two numbers; one that is no number is passed over. -/
def greater (a b : Float) : Float :=
  if a.isNaN then b else if b.isNaN then a else if a < b then b else a

/-- The number, without the sign of a zero. -/
def plainNumber (v : Float) : Float := if v == 0 then 0 else v

/-- The point, without the signs of zeros. -/
def Point.plain (p : Point) : Point := ⟨plainNumber p.x, plainNumber p.y⟩

/-- The corners, without the signs of zeros. -/
def Corners.plain (c : Corners) : Corners where
  topLeft := c.topLeft.plain
  topRight := c.topRight.plain
  bottomLeft := c.bottomLeft.plain
  bottomRight := c.bottomRight.plain

/-- The corners of the box between four edges, clamped into the unit square.  An edge that would lie
before the one opposite to it is moved there. -/
def Corners.ofEdges (left top right bottom : Float) : Corners :=
  let left := clampUnit left
  let top := clampUnit top
  let right := greater (clampUnit right) left
  let bottom := greater (clampUnit bottom) top
  ⟨⟨left, top⟩, ⟨right, top⟩, ⟨left, bottom⟩, ⟨right, bottom⟩⟩

/-- The corners of a box, clamped into the unit square. -/
def Corners.ofBox (b : BoundingBox) : Corners :=
  ofEdges b.left b.top (b.left + b.width) (b.top + b.height)

/-- The box between the top left and the bottom right corner. -/
def Corners.toBox (c : Corners) : BoundingBox where
  left := c.topLeft.x
  top := c.topLeft.y
  width := c.bottomRight.x - c.topLeft.x
  height := c.bottomRight.y - c.topLeft.y

end ScanIndex
