/-!
# Blank characters

`isBlank` holds of the characters that Unicode counts as white space, and `trimBlanks` takes them
off both ends of a text.
-/

namespace ScanIndex

/-- The character has the property `White_Space`. -/
def isBlank (c : Char) : Bool :=
  let n := c.toNat
  (9 ≤ n && n ≤ 13) || n = 0x20 || n = 0x85 || n = 0xa0 || n = 0x1680
    || (0x2000 ≤ n && n ≤ 0x200a) || n = 0x2028 || n = 0x2029 || n = 0x202f || n = 0x205f
    || n = 0x3000

/-- The characters of a text without the blank ones at either end. -/
def trimmed (cs : List Char) : List Char :=
  ((cs.dropWhile isBlank).reverse.dropWhile isBlank).reverse

/-- The text without the blank characters at either end. -/
def trimBlanks (s : String) : String := String.ofList (trimmed s.toList)

end ScanIndex
