import ScanIndex.Text.Digit
import ScanIndex.Text.Pieces

/-!
# Charts of characters

A `Chart` lists ranges of characters, with the code points that belong to them if there are any.  It
is written in rows of entries with blanks between them, all numbers in hexadecimal.  The entry `41`
is a single character, `41-5a` a range, `100-12e/2` every second character of a range, and
`df:73,73` a character with two code points that belong to it.
-/

namespace ScanIndex

/-- A range of characters, of which only every `step`-th one counts, and what belongs to it. -/
structure Chart.Range where
  first : Nat
  last : Nat
  step : Nat
  values : List Nat

/-- A list of ranges of characters. -/
structure Chart where
  ranges : List Chart.Range

namespace Chart

/-- The range that an entry writes. -/
def Range.ofEntry (entry : List Char) : Range :=
  let (range, values) := splitFirst ':' entry
  let (bounds, step) := splitFirst '/' range
  let (first, last) := splitFirst '-' bounds
  let first := digitsValue 16 first
  { first := first
    last := (last.map (digitsValue 16)).getD first
    step := (step.map (digitsValue 16)).getD 1
    values := ((values.map (pieces ',')).getD []).map (digitsValue 16) }

/-- The character counts as one of the range. -/
def Range.covers (r : Range) (c : Char) : Bool :=
  r.first ≤ c.toNat && c.toNat ≤ r.last && (c.toNat - r.first) % r.step = 0

/-- The chart that rows of entries write. -/
def ofRows (rows : List String) : Chart :=
  ⟨rows.flatMap fun row => (pieces ' ' row.toList).map Range.ofEntry⟩

/-- The first range that covers a character. -/
def range? (t : Chart) (c : Char) : Option Range := t.ranges.find? fun r => r.covers c

/-- Some range covers the character. -/
def covers (t : Chart) (c : Char) : Bool := t.ranges.any fun r => r.covers c

end Chart

end ScanIndex
