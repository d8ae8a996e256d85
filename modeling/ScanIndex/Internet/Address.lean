import ScanIndex.Text.Digit
import ScanIndex.Text.Pieces

/-!
# Addresses of the internet

An address of four numbers is kept as the one number that it stands for, and an address of eight
numbers as their list.  The strict form of the first has four decimal numbers (`octets?`); in the
loose form the numbers may be in other bases (`number?`), and the last one may stand for several
(`ofParts?`).
-/

namespace ScanIndex.Internet

/-- The labels of a name between its dots, without an empty one at the end. -/
def labels (name : List Char) : List (List Char) :=
  let ls := pieces '.' name
  if ls.getLast? = some [] then ls.dropLast else ls

/-- The number below 256 that decimal digits write without a zero in front. -/
def octet? (cs : List Char) : Option Nat :=
  let n := digitsValue 10 cs
  if !cs.isEmpty && cs.all Char.isDigit && (cs.length = 1 || cs.head? ≠ some '0') && n < 256 then
    some n
  else none

/-- Read four numbers in strict form. -/
def octets? (cs : List Char) : Option (List Nat) := do
  let ns ← (pieces '.' cs).mapM octet?
  if ns.length = 4 then some ns else none

/-- The value of a number: decimal, hexadecimal behind `0x`, or octal behind `0`. -/
def number? : List Char → Option Nat
  | [] => none
  | ['0'] => some 0
  | '0' :: c :: ds =>
    if c = 'x' ∨ c = 'X' then
      if !ds.isEmpty && ds.all (isDigitOf 16) then some (digitsValue 16 ds) else none
    else if (c :: ds).all (isDigitOf 8) then some (digitsValue 8 (c :: ds)) else none
  | ds => if ds.all (isDigitOf 10) then some (digitsValue 10 ds) else none

/-- The number that the parts of an address stand for: each takes a byte, and the last one takes the
bytes that are left. -/
def ofParts? (ns : List Nat) : Option Nat :=
  let front := ns.dropLast
  let last := ns.getLastD 0
  if ns.isEmpty || 4 < ns.length || front.any (255 < ·)
      || Nat.pow 256 (4 - front.length) ≤ last then none
  else some ((front.mapIdx fun i n => n * Nat.pow 256 (3 - i)).foldl (· + ·) last)

/-- The text of an address of four numbers. -/
def text4 (n : Nat) : String :=
  ".".intercalate ([n / 0x1000000, n / 0x10000 % 256, n / 256 % 256, n % 256].map toString)

/-- The number that a group of up to four hexadecimal digits writes. -/
def group? (g : List Char) : Option Nat :=
  if !g.isEmpty && g.length ≤ 4 && g.all (isDigitOf 16) then some (digitsValue 16 g) else none

/-- The numbers that groups between colons write; the last group may be four numbers. -/
def groups? : List (List Char) → Option (List Nat)
  | [] => some []
  | [g] =>
    match octets? g with
    | some [a, b, c, d] => some [a * 256 + b, c * 256 + d]
    | _ => (group? g).map fun n => [n]
  | g :: gs => do
    let n ← group? g
    let ns ← groups? gs
    return n :: ns

/-- The characters before the first double colon, and those after it if there is one. -/
def splitColons : List Char → List Char × Option (List Char)
  | ':' :: ':' :: cs => ([], some cs)
  | c :: cs =>
    let (before, after) := splitColons cs
    (c :: before, after)
  | [] => ([], none)

/-- The groups of a part of an address; an empty part has none. -/
def groupsOf (cs : List Char) : List (List Char) := if cs.isEmpty then [] else pieces ':' cs

/-- Read an address of eight numbers; a double colon stands for zeros. -/
def address6? (cs : List Char) : Option (List Nat) := do
  let (before, after) := splitColons cs
  match after with
  | none =>
    let ns ← groups? (groupsOf before)
    if ns.length = 8 then some ns else none
  | some after =>
    let ms ← (groupsOf before).mapM group?
    let ns ← groups? (groupsOf after)
    if ms.length + ns.length < 8 then
      some (ms ++ List.replicate (8 - ms.length - ns.length) 0 ++ ns)
    else none

/-- The number of zeros at the front of a list. -/
def zeros (ns : List Nat) : Nat := (ns.takeWhile (· = 0)).length

/-- The place and the length of the first of the longest runs of zeros. -/
def longestZeros : (place : Nat) → (best : Nat × Nat) → List Nat → Nat × Nat
  | _, best, [] => best
  | i, best, n :: ns =>
    let run := zeros (n :: ns)
    longestZeros (i + 1) (if best.2 < run then (i, run) else best) ns

/-- The text of an address of eight numbers, with a double colon for the longest run of zeros. -/
def text6 (ns : List Nat) : String :=
  let hex (ns : List Nat) : String :=
    ":".intercalate (ns.map fun n => String.ofList (Nat.toDigits 16 n))
  let (i, run) := longestZeros 0 (0, 0) ns
  if run < 2 then hex ns else hex (ns.take i) ++ "::" ++ hex (ns.drop (i + run))

end ScanIndex.Internet
