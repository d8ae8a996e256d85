import ScanIndex.Text.Normal.Charts

/-!
# The normal form of a text

Some characters can also be written as several: a letter and its accents, a syllable and its
letters. `normalForm` takes all characters apart, brings the marks behind each letter into the order
of their combining classes, and puts together again what can be put together.
-/

namespace ScanIndex

namespace Normal

/-- The combining class of a character. -/
def combiningClass (c : Char) : Nat :=
  match classChart.range? c with
  | some r => r.values.headD 0
  | none => 0

/-- The letters of a syllable of Hangul. -/
def lettersOf? (c : Char) : Option (List Char) :=
  let n := c.toNat - 0xac00
  if 0xac00 ≤ c.toNat ∧ n < 11172 then
    let front := [Char.ofNat (0x1100 + n / 588), Char.ofNat (0x1161 + n / 28 % 21)]
    if n % 28 = 0 then some front else some (front ++ [Char.ofNat (0x11a7 + n % 28)])
  else none

/-- The syllable of Hangul that two letters, or a syllable and a letter, make. -/
def syllable? (a b : Char) : Option Char :=
  let l := a.toNat - 0x1100
  let v := b.toNat - 0x1161
  let s := a.toNat - 0xac00
  let t := b.toNat - 0x11a7
  if 0x1100 ≤ a.toNat ∧ l < 19 ∧ 0x1161 ≤ b.toNat ∧ v < 21 then
    some (Char.ofNat (0xac00 + (l * 21 + v) * 28))
  else if 0xac00 ≤ a.toNat ∧ s < 11172 ∧ s % 28 = 0 ∧ 0x11a7 < b.toNat ∧ t < 28 then
    some (Char.ofNat (a.toNat + t))
  else none

/-- The characters that a character is made of; `depth` bounds how often it is taken apart. -/
def parts : (depth : Nat) → Char → List Char
  | 0, c => [c]
  | depth + 1, c =>
    match lettersOf? c, compositeChart.range? c with
    | some letters, _ => letters
    | none, some r =>
      match r.values with
      | [a, b] => parts depth (Char.ofNat a) ++ [Char.ofNat b]
      | _ => [c]
    | none, none => [c]

/-- How often a character can be taken apart. -/
def maxDepth : Nat := 4

/-- The character that two characters make. -/
def composite? (a b : Char) : Option Char :=
  match syllable? a b with
  | some c => some c
  | none =>
    (compositeChart.ranges.find? fun r => r.values = [a.toNat, b.toNat]).map
      fun r => Char.ofNat r.first

/-- The characters with neighbouring marks in the order of their classes. -/
def ordered (cs : List Char) : List Char :=
  ((cs.splitBy fun a b => combiningClass a ≠ 0 && combiningClass b ≠ 0).map fun marks =>
    marks.mergeSort fun a b => combiningClass a ≤ combiningClass b).flatten

/-- Put characters together; `base` is the last character of class zero, and `marks` are those read
behind it, the last one first. -/
def joined : (base : Option Char) → (marks : List Char) → List Char → List Char
  | base, marks, [] => base.toList ++ marks.reverse
  | base, marks, c :: cs =>
    let isNext := match marks with
      | [] => true
      | m :: _ => combiningClass m < combiningClass c
    match if isNext then base.bind (composite? · c) else none with
    | some both => joined (some both) marks cs
    | none =>
      if combiningClass c = 0 then base.toList ++ marks.reverse ++ joined (some c) [] cs
      else joined base (c :: marks) cs

end Normal

/-- The normal form of a text. -/
def normalForm (cs : List Char) : List Char :=
  Normal.joined none [] (Normal.ordered (cs.flatMap (Normal.parts Normal.maxDepth)))

end ScanIndex
