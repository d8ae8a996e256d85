/-!
# UTF-8

`Utf8.decode` reads bytes as text, or says with `Utf8.Malformed` where they stop being text: behind
how many bytes, and how many bytes from there on can begin no character.  `Utf8.decodeLossy` reads
every such piece as the replacement character instead.
-/

namespace ScanIndex.Utf8

/-- Where bytes stop being UTF-8.  `invalid` is the number of bytes that begin no character; it is
missing when the bytes end inside a character. -/
structure Malformed where
  index : Nat
  invalid : Option Nat
deriving DecidableEq, Repr

/-- The message for malformed bytes. -/
def Malformed.message (m : Malformed) : String :=
  match m.invalid with
  | some n => s!"invalid utf-8 sequence of {n} bytes from index {m.index}"
  | none => s!"incomplete utf-8 byte sequence from index {m.index}"

/-- The byte continues a character. -/
def isContinuation (b : UInt8) : Bool := 0x80 ≤ b && b < 0xc0

/-- The byte may follow the first byte of a character of three bytes. -/
def isSecondOfThree (first b : UInt8) : Bool :=
  if first = 0xe0 then 0xa0 ≤ b && b < 0xc0
  else if first = 0xed then 0x80 ≤ b && b < 0xa0
  else isContinuation b

/-- The byte may follow the first byte of a character of four bytes. -/
def isSecondOfFour (first b : UInt8) : Bool :=
  if first = 0xf0 then 0x90 ≤ b && b < 0xc0
  else if first = 0xf4 then 0x80 ≤ b && b < 0x90
  else isContinuation b

/-- What stands at the front of some bytes. -/
inductive Front where
  /-- A character of so many bytes. -/
  | char (length : Nat)
  /-- So many bytes that begin no character. -/
  | invalid (length : Nat)
  /-- The beginning of a character, and nothing after it. -/
  | incomplete

/-- What stands at the front of the bytes `b :: bs`. -/
def front (b : UInt8) (bs : List UInt8) : Front :=
  if b < 0x80 then .char 1
  else if 0xc2 ≤ b && b < 0xe0 then
    match bs with
    | [] => .incomplete
    | b₁ :: _ => if isContinuation b₁ then .char 2 else .invalid 1
  else if 0xe0 ≤ b && b < 0xf0 then
    match bs with
    | [] => .incomplete
    | b₁ :: bs =>
      if isSecondOfThree b b₁ then
        match bs with
        | [] => .incomplete
        | b₂ :: _ => if isContinuation b₂ then .char 3 else .invalid 2
      else .invalid 1
  else if 0xf0 ≤ b && b < 0xf5 then
    match bs with
    | [] => .incomplete
    | b₁ :: bs =>
      if isSecondOfFour b b₁ then
        match bs with
        | [] => .incomplete
        | b₂ :: bs =>
          if isContinuation b₂ then
            match bs with
            | [] => .incomplete
            | b₃ :: _ => if isContinuation b₃ then .char 4 else .invalid 3
          else .invalid 2
      else .invalid 1
  else .invalid 1

/-- The first place where the bytes stop being text, `index` bytes having been read; `skip` bytes
of the current character are still to be passed over. -/
def findMalformed (index : Nat) : (skip : Nat) → List UInt8 → Option Malformed
  | _, [] => none
  | skip + 1, _ :: bs => findMalformed (index + 1) skip bs
  | 0, b :: bs =>
    match front b bs with
    | .char n => findMalformed (index + 1) (n - 1) bs
    | .invalid n => some ⟨index, some n⟩
    | .incomplete => some ⟨index, none⟩

/-- The bytes of a text. -/
def encode (s : String) : List UInt8 := s.toUTF8.toList

/-- The text that the bytes encode. -/
def decode (bs : List UInt8) : Except Malformed String :=
  match String.fromUTF8? (ByteArray.mk bs.toArray) with
  | some s => .ok s
  | none => .error ((findMalformed 0 0 bs).getD ⟨0, none⟩)

/-- The bytes with every piece that begins no character replaced by the bytes of the replacement
character; `skip` bytes of the current piece are still to be passed over, and are kept when `keep`
is set. -/
def mend : (skip : Nat) → (keep : Bool) → List UInt8 → List UInt8
  | _, _, [] => []
  | skip + 1, keep, b :: bs => if keep then b :: mend skip keep bs else mend skip keep bs
  | 0, _, b :: bs =>
    match front b bs with
    | .char n => b :: mend (n - 1) true bs
    | .invalid n => 0xef :: 0xbf :: 0xbd :: mend (n - 1) false bs
    | .incomplete => [0xef, 0xbf, 0xbd]

/-- The text that the bytes encode, with a replacement character for every piece that begins no
character. -/
def decodeLossy (bs : List UInt8) : String :=
  match decode (mend 0 true bs) with
  | .ok s => s
  | .error _ => ""

end ScanIndex.Utf8
