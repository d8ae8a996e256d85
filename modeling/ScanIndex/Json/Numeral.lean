import ScanIndex.Json.Value

/-!
# Numerals

The type `Numeral` of numbers as JSON text writes them, the reader `Numeral.read?`, and the number
`Numeral.value?` that a numeral stands for.  An integer that fits into 64 bits, signed or unsigned,
is kept as it is.  Every other number is a 64-bit float: its leading digits, as many as fit into 64
bits, scaled by a power of ten in one operation.
-/

namespace ScanIndex

/-- A number as it is written: sign, digits before the point, digits after it if there is a point,
and the exponent with its sign if there is one. -/
structure Numeral where
  negative : Bool
  whole : List Char
  fraction : Option (List Char)
  exponent : Option (Bool × List Char)

namespace Numeral

/-- The value of a decimal digit. -/
def digitValue (c : Char) : Nat := c.toNat - '0'.toNat

/-- The number that a list of decimal digits writes. -/
def natOfDigits (ds : List Char) : Nat := ds.foldl (fun n c => 10 * n + digitValue c) 0

/-- The digits at the front of a text, and what follows them; there must be at least one. -/
def digits? (cs : List Char) : Option (List Char × List Char) :=
  match cs.span Char.isDigit with
  | ([], _) => none
  | (ds, rest) => some (ds, rest)

/-- The digits before the point: a single zero, or digits that do not start with one. -/
def whole? (cs : List Char) : Option (List Char × List Char) :=
  match digits? cs with
  | some ('0' :: _ :: _, _) => none
  | r => r

/-- The point and the digits after it, if the text starts with a point. -/
def fraction? : List Char → Option (Option (List Char) × List Char)
  | '.' :: cs => (digits? cs).map fun (ds, rest) => (some ds, rest)
  | cs => some (none, cs)

/-- The digits of an exponent whose mark and sign have been read. -/
def signedDigits? (negative : Bool) (cs : List Char) :
    Option (Option (Bool × List Char) × List Char) :=
  (digits? cs).map fun (ds, rest) => (some (negative, ds), rest)

/-- The exponent, if the text starts with its mark. -/
def exponent? : List Char → Option (Option (Bool × List Char) × List Char)
  | c :: cs =>
    if c = 'e' ∨ c = 'E' then
      match cs with
      | '+' :: rest => signedDigits? false rest
      | '-' :: rest => signedDigits? true rest
      | rest => signedDigits? false rest
    else some (none, c :: cs)
  | [] => some (none, [])

/-- The unsigned numeral at the front of a text. -/
def unsigned? (negative : Bool) (cs : List Char) : Option (Numeral × List Char) := do
  let (whole, cs) ← whole? cs
  let (fraction, cs) ← fraction? cs
  let (exponent, cs) ← exponent? cs
  return (⟨negative, whole, fraction, exponent⟩, cs)

/-- The numeral at the front of a text, and what follows it. -/
def read? : List Char → Option (Numeral × List Char)
  | '-' :: cs => unsigned? true cs
  | cs => unsigned? false cs

/-- Append digits to `n` while the result fits into 64 bits; the result, and how many digits were
left out. -/
def appendDigits (n : Nat) : List Char → Nat × Nat
  | [] => (n, 0)
  | c :: cs =>
    let next := 10 * n + digitValue c
    if next < UInt64.size then appendDigits next cs else (n, cs.length + 1)

/-- The power of ten as a float. -/
def powerOfTen (k : Nat) : Float := Float.ofScientific 1 false k

/-- Scale `x` by the `e`-th power of ten, with at most `steps` divisions by the largest power of ten
that is a float before it.  A result that is too large is refused. -/
def scale : Nat → Float → Int → Option Float
  | steps, x, e =>
    if e.natAbs ≤ 308 then
      if 0 ≤ e then
        let y := x * powerOfTen e.natAbs
        if y.isInf then none else some y
      else some (x / powerOfTen e.natAbs)
    else if x == 0 then some x
    else if 0 ≤ e then none
    else
      match steps with
      | 0 => some 0
      | steps + 1 => scale steps (x / powerOfTen 308) (e + 308)

/-- The float that a numeral stands for, if it is not too large. -/
def float? (t : Numeral) : Option Float :=
  let (n, dropped) := appendDigits 0 t.whole
  let fraction := t.fraction.getD []
  let (n, unused) := appendDigits n fraction
  let start : Int := dropped - (fraction.length - unused : Nat)
  let magnitude : Option Float :=
    match t.exponent with
    | none => scale 3 n.toUInt64.toFloat start
    | some (negative, ds) =>
      let e := natOfDigits ds
      if e < 0x80000000 then scale 3 n.toUInt64.toFloat (if negative then start - e else start + e)
      else if n ≠ 0 ∧ negative = false then none
      else some 0
  magnitude.map fun x => if t.negative then -x else x

/-- The number that a numeral stands for, if it is not too large. -/
def value? (t : Numeral) : Option Number :=
  let n := natOfDigits t.whole
  if t.fraction.isNone ∧ t.exponent.isNone ∧ n < UInt64.size then
    if t.negative = false then some (.int n)
    else if 0 < n ∧ n ≤ 0x8000000000000000 then some (.int (-n))
    else some (.float (-n.toUInt64.toFloat))
  else t.float?.map .float

end Numeral

end ScanIndex
