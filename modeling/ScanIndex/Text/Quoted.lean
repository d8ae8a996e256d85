import ScanIndex.Text.Invisible

/-!
# Quoted text

`quoted s` writes `s` between double quotes for a reader: quotes and backslashes, line breaks, tabs
and NUL as two characters, and every other character without a visible form by its code point in
hexadecimal.
-/

namespace ScanIndex

/-- The text of a natural number in base 16, with lower-case letters. -/
def hexText (n : Nat) : String := String.ofList (Nat.toDigits 16 n)

/-- One character between quotes. -/
def quotedChar : Char → String
  | '"' => "\\\""
  | '\\' => "\\\\"
  | '\n' => "\\n"
  | '\r' => "\\r"
  | '\t' => "\\t"
  | '\x00' => "\\0"
  | c => if isInvisible c then "\\u\x7b" ++ hexText c.toNat ++ "\x7d" else c.toString

/-- The text between double quotes. -/
def quoted (s : String) : String :=
  "\"" ++ String.join (s.toList.map quotedChar) ++ "\""

end ScanIndex
