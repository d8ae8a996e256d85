/-!
# Letter case

`lowerAscii` brings the letters of ASCII to lower case and keeps every other character.
-/

namespace ScanIndex

/-- The text with the letters of ASCII in lower case. -/
def lowerAscii (s : String) : String := String.ofList (s.toList.map Char.toLower)

end ScanIndex
