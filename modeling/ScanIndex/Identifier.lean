import ScanIndex.Digest.Sha256
import ScanIndex.Text.Utf8
import ScanIndex.Transcript

/-!
# Identifiers

Identifiers are sixteen bytes, written in base 16 in five groups; two places of them are fixed and
mark them as random.  `Identifier.supply` draws identifiers from a seed.
-/

namespace ScanIndex.Identifier

/-- Sixteen bytes with the marks of a random identifier. -/
def marked (bytes : List UInt8) : List UInt8 :=
  bytes.mapIdx fun i b =>
    if i = 6 then b &&& 0x0f ||| 0x40 else if i = 8 then b &&& 0x3f ||| 0x80 else b

/-- The text of sixteen bytes, in groups of eight, four, four, four and twelve digits. -/
def text (bytes : List UInt8) : String :=
  "-".intercalate [
    hexOfBytes (bytes.take 4),
    hexOfBytes ((bytes.drop 4).take 2),
    hexOfBytes ((bytes.drop 6).take 2),
    hexOfBytes ((bytes.drop 8).take 2),
    hexOfBytes (bytes.drop 10)]

/-- The identifiers that are drawn from a seed. -/
def supply (seed : List UInt8) : Supply := fun n =>
  text (marked ((Sha256.hash (seed ++ Utf8.encode (toString n))).take 16))

/-- The character is a digit of an identifier. -/
def isDigit (c : Char) : Bool := c.isDigit || ('a' ≤ c && c ≤ 'f')

/-- The text is written like a random identifier. -/
def isRandom (s : String) : Bool :=
  match s.splitOn "-" with
  | [a, b, c, d, e] =>
    [a, b, c, d, e].map String.length = [8, 4, 4, 4, 12]
      && (a ++ b ++ c ++ d ++ e).toList.all isDigit
      && c.toList.head? = some '4'
      && d.toList.head?.any fun x => "89ab".toList.contains x
  | _ => false

end ScanIndex.Identifier
