import ScanIndex.Text.Utf8

/-!
# Percent-encoding

`percentDecode` replaces every percent sign followed by two hexadecimal digits by the byte that they
write and keeps all other bytes.  `spaced` reads a plus sign as a blank, as forms do.
-/

namespace ScanIndex

/-- The value of the hexadecimal digit with the given code. -/
def hexByte? (b : UInt8) : Option UInt8 :=
  if 0x30 ≤ b && b ≤ 0x39 then some (b - 0x30)
  else if 0x41 ≤ b && b ≤ 0x46 then some (b - 0x41 + 10)
  else if 0x61 ≤ b && b ≤ 0x66 then some (b - 0x61 + 10)
  else none

/-- The byte that two hexadecimal digits write. -/
def hexPair? (a b : UInt8) : Option UInt8 :=
  match hexByte? a, hexByte? b with
  | some x, some y => some (x * 16 + y)
  | _, _ => none

/-- The bytes with their percent-encoded bytes decoded. -/
def percentDecode : List UInt8 → List UInt8
  | 0x25 :: a :: b :: bs =>
    match hexPair? a b with
    | some x => x :: percentDecode bs
    | none => 0x25 :: percentDecode (a :: b :: bs)
  | b :: bs => b :: percentDecode bs
  | [] => []

/-- The bytes with blanks for plus signs. -/
def spaced (bs : List UInt8) : List UInt8 := bs.map fun b => if b = 0x2b then 0x20 else b

/-- The bytes that a text in base 16 writes, two digits a byte. -/
def bytesOfHex? : List UInt8 → Option (List UInt8)
  | [] => some []
  | [_] => none
  | a :: b :: rest =>
    match hexPair? a b, bytesOfHex? rest with
    | some x, some xs => some (x :: xs)
    | _, _ => none

end ScanIndex
