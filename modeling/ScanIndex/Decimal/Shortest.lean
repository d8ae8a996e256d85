/-!
# Shortest decimals

`Binary64.ofFloat` decodes a finite float as `mantissa · 2 ^ exponent`.  The reals that round to it
form the interval `Binary64.lower`–`Binary64.upper`, which holds its ends exactly when the mantissa
is even.  `Binary64.shortest` is the decimal with the fewest digits in that interval, and among
those the nearest to the value; of two equally near ones it is the even one.
-/

namespace ScanIndex

/-- The decimal `digits · 10 ^ exponent`. -/
structure Decimal where
  digits : Nat
  exponent : Int
deriving DecidableEq, Repr

/-- A positive number `mantissa · 2 ^ exponent`; `isPower` says that the neighbour below is only
half as far away as the neighbour above. -/
structure Binary64 where
  mantissa : Nat
  exponent : Int
  isPower : Bool
deriving DecidableEq, Repr

namespace Binary64

/-- The magnitude of a finite float that is not zero. -/
def ofFloat (x : Float) : Binary64 :=
  let bits := x.toBits.toNat % 0x8000000000000000
  let fraction := bits % 0x10000000000000
  let biased := bits / 0x10000000000000
  if biased = 0 then ⟨fraction, -1074, false⟩
  else ⟨fraction + 0x10000000000000, Int.ofNat biased - 1075, fraction = 0 && biased ≠ 1⟩

/-- Four times the value in units of `2 ^ (exponent - 2)`. -/
def center (b : Binary64) : Nat := 4 * b.mantissa

/-- The lower end of the interval of reals that round to the value, in the units of `center`. -/
def lower (b : Binary64) : Nat := if b.isPower then 4 * b.mantissa - 1 else 4 * b.mantissa - 2

/-- The upper end of the interval of reals that round to the value, in the units of `center`. -/
def upper (b : Binary64) : Nat := 4 * b.mantissa + 2

/-- A natural number in the units of `center`, as a fraction of units of `10 ^ e`. -/
def onGrid (b : Binary64) (e : Int) (n : Nat) : Nat × Nat :=
  let q := b.exponent - 2
  (n * Nat.pow 2 q.toNat * Nat.pow 10 (-e).toNat, Nat.pow 2 (-q).toNat * Nat.pow 10 e.toNat)

/-- The decimal `d · 10 ^ e` rounds to the value. -/
def readsBack (b : Binary64) (e : Int) (d : Nat) : Bool :=
  let (lo, den) := b.onGrid e b.lower
  let (hi, _) := b.onGrid e b.upper
  if b.mantissa % 2 = 0 then lo ≤ d * den && d * den ≤ hi
  else lo < d * den && d * den < hi

/-- The multiple of `10 ^ e` that rounds to the value and is nearest to it, if there is one. -/
def nearest? (b : Binary64) (e : Int) : Option Nat :=
  let (mid, den) := b.onGrid e b.center
  let below := mid / den
  let above := below + 1
  match b.readsBack e below, b.readsBack e above with
  | true, true =>
    let down := mid - below * den
    let up := above * den - mid
    if down < up || (down = up && below % 2 = 0) then some below else some above
  | true, false => some below
  | false, true => some above
  | false, false => none

/-- The least `k` from `start` on with value below `10 ^ k`, with at most `steps` steps. -/
def magnitude (b : Binary64) : (steps : Nat) → (start : Int) → Int
  | 0, k => k
  | steps + 1, k =>
    let (mid, den) := b.onGrid k b.center
    if mid < den then k else magnitude b steps (k + 1)

/-- Search the grids from `10 ^ e` down, with at most `steps` steps. -/
def search (b : Binary64) : (steps : Nat) → (e : Int) → Decimal
  | 0, e => ⟨(b.onGrid e b.center).1 / (b.onGrid e b.center).2, e⟩
  | steps + 1, e =>
    match b.nearest? e with
    | some d => ⟨d, e⟩
    | none => search b steps (e - 1)

/-- The decimal without zeros at the end of its digits, with at most `steps` steps. -/
def strip : (steps : Nat) → Decimal → Decimal
  | 0, d => d
  | steps + 1, d =>
    if d.digits ≠ 0 ∧ d.digits % 10 = 0 then strip steps ⟨d.digits / 10, d.exponent + 1⟩ else d

/-- The shortest decimal that rounds to the value. -/
def shortest (b : Binary64) : Decimal :=
  let bitLength : Int := Int.ofNat (Nat.log2 b.mantissa) + b.exponent
  let k := b.magnitude 8 (bitLength * 30103 / 100000 - 2)
  strip 20 (b.search 20 (k - 1))

end Binary64

end ScanIndex
