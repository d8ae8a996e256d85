import ScanIndex.Decimal.Notation
import ScanIndex.Json.Value
import ScanIndex.Text.Quoted

/-!
# Writing JSON text

`Json.compact` writes a value without any blanks, and `Json.pretty` writes one field or item a line,
indented by two blanks a level.
-/

namespace ScanIndex

/-- One character of a string. -/
def Json.stringChar : Char → String
  | '"' => "\\\""
  | '\\' => "\\\\"
  | '\x08' => "\\b"
  | '\x0c' => "\\f"
  | '\n' => "\\n"
  | '\r' => "\\r"
  | '\t' => "\\t"
  | c =>
    if c.toNat < 0x10 then "\\u000" ++ hexText c.toNat
    else if c.toNat < 0x20 then "\\u00" ++ hexText c.toNat
    else c.toString

/-- A string between quotes. -/
def Json.stringText (s : String) : String :=
  "\"" ++ String.join (s.toList.map stringChar) ++ "\""

/-- The text of a number; a float that is not finite is written as null. -/
def Number.text : Number → String
  | int n => toString n
  | float x => if x.isFinite then floatText x else "null"

namespace Json

mutual

/-- The text of a value. -/
def compact : Json → String
  | null => "null"
  | bool b => toString b
  | number n => n.text
  | string s => stringText s
  | array vs => "[" ++ String.intercalate "," (compactItems vs) ++ "]"
  | object fs => "\x7b" ++ String.intercalate "," (compactFields fs) ++ "\x7d"

/-- The texts of items. -/
def compactItems : List Json → List String
  | [] => []
  | v :: vs => compact v :: compactItems vs

/-- The texts of fields. -/
def compactFields : List (String × Json) → List String
  | [] => []
  | (k, v) :: fs => (stringText k ++ ":" ++ compact v) :: compactFields fs

end

/-- A new line at a level of nesting. -/
def newLine (level : Nat) : String := String.ofList ('\n' :: List.replicate (2 * level) ' ')

/-- Items at a level of nesting, a line each, with a comma between them. -/
def spread (level : Nat) (items : List String) : String :=
  newLine level ++ String.intercalate ("," ++ newLine level) items

mutual

/-- The text of a value at a level of nesting, over several lines. -/
def prettyAt (level : Nat) : Json → String
  | null => "null"
  | bool b => toString b
  | number n => n.text
  | string s => stringText s
  | array [] => "[]"
  | array (v :: vs) =>
    "[" ++ spread (level + 1) (prettyItems (level + 1) (v :: vs)) ++ newLine level ++ "]"
  | object [] => "\x7b\x7d"
  | object (f :: fs) =>
    "\x7b" ++ spread (level + 1) (prettyFields (level + 1) (f :: fs)) ++ newLine level ++ "\x7d"

/-- The texts of items at a level of nesting. -/
def prettyItems (level : Nat) : List Json → List String
  | [] => []
  | v :: vs => prettyAt level v :: prettyItems level vs

/-- The texts of fields at a level of nesting. -/
def prettyFields (level : Nat) : List (String × Json) → List String
  | [] => []
  | (k, v) :: fs => (stringText k ++ ": " ++ prettyAt level v) :: prettyFields level fs

end

/-- The text of a value over several lines. -/
def pretty (j : Json) : String := prettyAt 0 j

end Json

end ScanIndex
