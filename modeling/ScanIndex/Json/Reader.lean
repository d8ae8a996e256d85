import ScanIndex.Json.Numeral
import ScanIndex.Text.Digit

/-!
# Reading JSON text

`Json.read?` reads a text that holds one JSON value and blanks around it, and keeps the fields of
every object as they are written.  `Json.parse?` is the canonical form of what is read.  Arrays and
objects may be nested `Json.maxDepth` deep.
-/

namespace ScanIndex.Json

/-- The characters that may stand between the tokens of a text. -/
def isSpacing (c : Char) : Bool := c = ' ' || c = '\n' || c = '\t' || c = '\r'

/-- The text without the blanks at its front. -/
def skipSpacing (cs : List Char) : List Char := cs.dropWhile isSpacing

/-- The code unit that four hexadecimal digits write. -/
def codeUnit? (a b c d : Char) : Option Nat := do
  let a ← hexValue? a
  let b ← hexValue? b
  let c ← hexValue? c
  let d ← hexValue? d
  return ((a * 16 + b) * 16 + c) * 16 + d

/-- The character that a letter after a backslash stands for. -/
def escaped? : Char → Option Char
  | '"' => some '"'
  | '\\' => some '\\'
  | '/' => some '/'
  | 'b' => some '\x08'
  | 'f' => some '\x0c'
  | 'n' => some '\n'
  | 'r' => some '\r'
  | 't' => some '\t'
  | _ => none

/-- The code unit is the first half of a pair. -/
def isHighSurrogate (n : Nat) : Bool := 0xD800 ≤ n && n < 0xDC00

/-- The code unit is the second half of a pair. -/
def isLowSurrogate (n : Nat) : Bool := 0xDC00 ≤ n && n < 0xE000

/-- Read a string after its opening quote; `done` holds the characters read so far, the last one
first.  Halves of pairs may only stand together. -/
def stringBody? (done : List Char) : List Char → Option (String × List Char)
  | [] => none
  | '"' :: cs => some (String.ofList done.reverse, cs)
  | '\\' :: 'u' :: a :: b :: c :: d :: '\\' :: 'u' :: a' :: b' :: c' :: d' :: cs =>
    match codeUnit? a b c d with
    | none => none
    | some n =>
      if isHighSurrogate n then
        match codeUnit? a' b' c' d' with
        | none => none
        | some m =>
          if isLowSurrogate m then
            stringBody? (Char.ofNat (0x10000 + (n - 0xD800) * 0x400 + (m - 0xDC00)) :: done) cs
          else none
      else if isLowSurrogate n then none
      else stringBody? (Char.ofNat n :: done) ('\\' :: 'u' :: a' :: b' :: c' :: d' :: cs)
  | '\\' :: 'u' :: a :: b :: c :: d :: cs =>
    match codeUnit? a b c d with
    | none => none
    | some n =>
      if isHighSurrogate n || isLowSurrogate n then none
      else stringBody? (Char.ofNat n :: done) cs
  | '\\' :: c :: cs =>
    match escaped? c with
    | none => none
    | some c => stringBody? (c :: done) cs
  | c :: cs => if c.toNat < 0x20 then none else stringBody? (c :: done) cs

/-- The number at the front of a text. -/
def number? (cs : List Char) : Option (Json × List Char) := do
  let (t, rest) ← Numeral.read? cs
  let n ← t.value?
  return (number n, rest)

mutual

/-- The value at the front of a text whose first character is no blank, with at most `depth` nested
arrays and objects.  `fuel` bounds the number of steps. -/
def value? : (fuel : Nat) → (depth : Nat) → List Char → Option (Json × List Char)
  | 0, _, _ => none
  | fuel + 1, depth, cs =>
    match cs with
    | 'n' :: 'u' :: 'l' :: 'l' :: rest => some (null, rest)
    | 't' :: 'r' :: 'u' :: 'e' :: rest => some (bool true, rest)
    | 'f' :: 'a' :: 'l' :: 's' :: 'e' :: rest => some (bool false, rest)
    | '"' :: rest => (stringBody? [] rest).map fun (s, rest) => (string s, rest)
    | '[' :: rest =>
      match depth with
      | 0 => none
      | depth + 1 =>
        match skipSpacing rest with
        | ']' :: rest => some (array [], rest)
        | rest => items? fuel depth [] rest
    | '\x7b' :: rest =>
      match depth with
      | 0 => none
      | depth + 1 =>
        match skipSpacing rest with
        | '\x7d' :: rest => some (object [], rest)
        | rest => fields? fuel depth [] rest
    | cs => number? cs

/-- The rest of an array of which the items `done`, the last one first, have been read. -/
def items? : (fuel : Nat) → (depth : Nat) → (done : List Json) → List Char →
    Option (Json × List Char)
  | 0, _, _, _ => none
  | fuel + 1, depth, done, cs =>
    match value? fuel depth cs with
    | none => none
    | some (v, rest) =>
      match skipSpacing rest with
      | ',' :: rest => items? fuel depth (v :: done) (skipSpacing rest)
      | ']' :: rest => some (array (v :: done).reverse, rest)
      | _ => none

/-- The rest of an object of which the fields `done`, the last one first, have been read. -/
def fields? : (fuel : Nat) → (depth : Nat) → (done : List (String × Json)) → List Char →
    Option (Json × List Char)
  | 0, _, _, _ => none
  | fuel + 1, depth, done, cs =>
    match cs with
    | '"' :: rest =>
      match stringBody? [] rest with
      | none => none
      | some (k, rest) =>
        match skipSpacing rest with
        | ':' :: rest =>
          match value? fuel depth (skipSpacing rest) with
          | none => none
          | some (v, rest) =>
            match skipSpacing rest with
            | ',' :: rest => fields? fuel depth ((k, v) :: done) (skipSpacing rest)
            | '\x7d' :: rest => some (object ((k, v) :: done).reverse, rest)
            | _ => none
        | _ => none
    | _ => none

end

/-- How deep arrays and objects may be nested in a text. -/
def maxDepth : Nat := 127

/-- The value that a text holds, with the fields of objects as they are written. -/
def read? (text : String) : Option Json :=
  let cs := text.toList
  match value? (2 * cs.length + 2) maxDepth (skipSpacing cs) with
  | none => none
  | some (v, rest) => if (skipSpacing rest).isEmpty then some v else none

/-- The value that a text holds. -/
def parse? (text : String) : Option Json := (read? text).map canonical

end ScanIndex.Json
