import ScanIndex.Text.Pieces

/-!
# Punycode

A text is written with letters, digits and hyphens: first its characters of ASCII, then behind a
hyphen where the others stand among them.  The others are told in ascending order, each by the
number of places that are passed over, in numbers whose digits have varying weights.
-/

namespace ScanIndex.Punycode

/-- The value of a digit. -/
def digit? (c : Char) : Option Nat :=
  if 'a' ≤ c ∧ c ≤ 'z' then some (c.toNat - 'a'.toNat)
  else if 'A' ≤ c ∧ c ≤ 'Z' then some (c.toNat - 'A'.toNat)
  else if '0' ≤ c ∧ c ≤ '9' then some (c.toNat - '0'.toNat + 26)
  else none

/-- The digit of a value. -/
def digitOf (n : Nat) : Char :=
  if n < 26 then Char.ofNat ('a'.toNat + n) else Char.ofNat ('0'.toNat + n - 26)

/-- The value from which on the digit at place `k` is not the last one of its number. -/
def threshold (bias k : Nat) : Nat := if k ≤ bias then 1 else min 26 (k - bias)

/-- Divide by 35 until 455 is not exceeded; `steps` counts the divisions. -/
def shrink (n steps : Nat) : Nat × Nat :=
  if 455 < n then shrink (n / 35) (steps + 1) else (n, steps)
termination_by n
decreasing_by omega

/-- The bias behind a number, when so many characters are in place. -/
def adapt (delta count : Nat) (isFirst : Bool) : Nat :=
  let delta := if isFirst then delta / 700 else delta / 2
  let (n, steps) := shrink (delta + delta / count) 0
  36 * steps + 36 * n / (n + 38)

/-- Read a number, of which the digits before place `k` make `total`, and the characters behind it;
`weight` is that of the next digit. -/
def number? (bias : Nat) : (k weight total : Nat) → List Char → Option (Nat × List Char)
  | _, _, _, [] => none
  | k, weight, total, c :: cs =>
    match digit? c with
    | none => none
    | some d =>
      let t := threshold bias k
      let total := total + d * weight
      if d < t then some (total, cs) else number? bias (k + 36) (weight * (36 - t)) total cs

/-- Put the remaining characters in place; `code` is the last character and `place` the place behind
it.  At most `fuel` characters are read. -/
def insertions? : (fuel : Nat) → (code place bias : Nat) → (done : List Char) → List Char →
    Option (List Char)
  | _, _, _, _, done, [] => some done
  | 0, _, _, _, _, _ :: _ => none
  | fuel + 1, code, place, bias, done, cs =>
    match number? bias 36 1 place cs with
    | none => none
    | some (total, cs) =>
      let count := done.length + 1
      let code := code + total / count
      let place' := total % count
      if code.isValidChar then
        insertions? fuel code (place' + 1) (adapt (total - place) count (place = 0))
          (done.insertIdx place' (Char.ofNat code)) cs
      else none

/-- The text that is written. -/
def decode? (cs : List Char) : Option (List Char) :=
  let (back, front) := splitFirst '-' cs.reverse
  match front with
  | some (c :: front) => insertions? cs.length 128 0 72 (c :: front).reverse back.reverse
  | _ => insertions? cs.length 128 0 72 [] cs

/-- The digits of a number, from place `k` on; there are at most `fuel`. -/
def digits (bias : Nat) : (fuel : Nat) → (k n : Nat) → List Char
  | 0, _, _ => []
  | fuel + 1, k, n =>
    let t := threshold bias k
    if n < t then [digitOf n]
    else digitOf (t + (n - t) % (36 - t)) :: digits bias fuel (k + 36) ((n - t) / (36 - t))

/-- How far the writing of a text has come. -/
structure Progress where
  written : List Char
  delta : Nat
  bias : Nat
  count : Nat

/-- Pass over one character, or write it if it is the one with code `code`. -/
def pass (basic code : Nat) (p : Progress) (c : Char) : Progress :=
  if c.toNat < code then { p with delta := p.delta + 1 }
  else if c.toNat = code then
    { written := p.written ++ digits p.bias (p.delta + 1) 36 p.delta
      delta := 0
      bias := adapt p.delta (p.count + 1) (p.count = basic)
      count := p.count + 1 }
  else p

/-- Write the characters with the listed codes, of which `from` is the least possible one. -/
def encodeFrom (cs : List Char) (basic : Nat) : (least : Nat) → List Nat → Progress → Progress
  | _, [], p => p
  | least, code :: codes, p =>
    let p := { p with delta := p.delta + (code - least) * (p.count + 1) }
    let p := cs.foldl (pass basic code) p
    encodeFrom cs basic (code + 1) codes { p with delta := p.delta + 1 }

/-- The writing of a text. -/
def encode (cs : List Char) : List Char :=
  let basic := cs.filter fun c => c.toNat < 0x80
  let others := ((cs.filter fun c => 0x80 ≤ c.toNat).map Char.toNat).mergeSort.eraseDups
  let start : Progress := ⟨[], 0, 72, basic.length⟩
  let written := (encodeFrom cs basic.length 128 others start).written
  basic ++ (if basic.isEmpty then [] else ['-']) ++ written

end ScanIndex.Punycode
