import ScanIndex.Toml.Lexical
import ScanIndex.Toml.Value

/-!
# Numbers and dates of TOML

Integers in four bases, floats, and dates with times.
-/

namespace ScanIndex.Toml

/-- Digits of a base, with single underscores between them; `done` holds those read so far, the last
one first. -/
def digits? (base : Nat) (done : List Char) : List Char → Option (List Char × List Char)
  | '_' :: c :: cs =>
    if !done.isEmpty && isDigitOf base c then digits? base (c :: done) cs
    else if done.isEmpty then none else some (done.reverse, '_' :: c :: cs)
  | c :: cs =>
    if isDigitOf base c then digits? base (c :: done) cs
    else if done.isEmpty then none else some (done.reverse, c :: cs)
  | [] => if done.isEmpty then none else some (done.reverse, [])

/-- A sign, which is true for a minus. -/
def sign : List Char → Bool × List Char
  | '-' :: cs => (true, cs)
  | '+' :: cs => (false, cs)
  | cs => (false, cs)

/-- The digits of a whole number, without a zero in front of others. -/
def wholeDigits? : List Char → Option (List Char × List Char)
  | '0' :: cs => some (['0'], cs)
  | cs => digits? 10 [] cs

/-- A whole number with a sign. -/
def whole? (cs : List Char) : Option (Int × List Char) := do
  let (negative, cs) := sign cs
  let (ds, cs) ← wholeDigits? cs
  let n : Int := digitsValue 10 ds
  return (if negative then -n else n, cs)

/-- A whole number in one of the bases. -/
def integer? (cs : List Char) : Option (Toml × List Char) := do
  let (n, cs) ←
    match cs with
    | '0' :: 'x' :: cs => (digits? 16 [] cs).map fun (ds, cs) => ((digitsValue 16 ds : Int), cs)
    | '0' :: 'o' :: cs => (digits? 8 [] cs).map fun (ds, cs) => ((digitsValue 8 ds : Int), cs)
    | '0' :: 'b' :: cs => (digits? 2 [] cs).map fun (ds, cs) => ((digitsValue 2 ds : Int), cs)
    | cs => whole? cs
  if -0x8000000000000000 ≤ n ∧ n < 0x8000000000000000 then return (.integer n, cs) else none

/-- The exponent of a float. -/
def exponent? : List Char → Option (Int × List Char)
  | c :: cs =>
    if c = 'e' ∨ c = 'E' then do
      let (negative, cs) := sign cs
      let (ds, cs) ← digits? 10 [] cs
      let n : Int := digitsValue 10 ds
      return (if negative then -n else n, cs)
    else none
  | [] => none

/-- The float of a whole number scaled by a power of ten. -/
def scaled (m : Nat) (e : Int) : Float :=
  if m = 0 then 0
  else if 400 < e then Float.ofScientific m false 400
  else if e < -(4000 + m.log2 : Int) then 0
  else Float.ofScientific m (e < 0) e.natAbs

/-- A float with digits. -/
def decimal? (cs : List Char) : Option (Toml × List Char) := do
  let (negative, cs) := sign cs
  let (ds, cs) ← wholeDigits? cs
  let (fs, cs) ←
    match cs with
    | '.' :: cs => digits? 10 [] cs
    | cs => if (exponent? cs).isSome then some ([], cs) else none
  let (e, cs) := (exponent? cs).getD (0, cs)
  let x := scaled (digitsValue 10 (ds ++ fs)) (e - fs.length)
  if x.isInf && !negative then none else return (.float (if negative then -x else x), cs)

/-- One of the floats that are written as words. -/
def special? (cs : List Char) : Option (Toml × List Char) :=
  let (negative, cs) := sign cs
  let signed (x : Float) : Toml := .float (if negative then -x else x)
  match cs with
  | 'i' :: 'n' :: 'f' :: cs => some (signed (1 / 0), cs)
  | 'n' :: 'a' :: 'n' :: cs => some (signed (0 / 0), cs)
  | _ => none

/-- A number of so many digits between two bounds. -/
def field? (width lo hi : Nat) (cs : List Char) : Option (Nat × List Char) :=
  let ds := cs.take width
  let n := digitsValue 10 ds
  if ds.length = width && ds.all Char.isDigit && lo ≤ n && n ≤ hi then some (n, cs.drop width)
  else none

/-- The rest of a text behind a character. -/
def expect? (c : Char) : List Char → Option (List Char)
  | x :: xs => if x = c then some xs else none
  | [] => none

/-- The number of days of a month. -/
def daysOfMonth (year month : Nat) : Nat :=
  if month = 2 then
    if year % 4 = 0 ∧ (year % 100 ≠ 0 ∨ year % 400 = 0) then 29 else 28
  else if month = 4 ∨ month = 6 ∨ month = 9 ∨ month = 11 then 30
  else 31

/-- The rest of a text behind a date. -/
def date? (cs : List Char) : Option (List Char) := do
  let (year, cs) ← field? 4 0 9999 cs
  let cs ← expect? '-' cs
  let (month, cs) ← field? 2 1 12 cs
  let cs ← expect? '-' cs
  let (_, cs) ← field? 2 1 (daysOfMonth year month) cs
  return cs

/-- The rest of a text behind a time of day. -/
def time? (cs : List Char) : Option (List Char) := do
  let (_, cs) ← field? 2 0 23 cs
  let cs ← expect? ':' cs
  let (_, cs) ← field? 2 0 59 cs
  let cs ← expect? ':' cs
  let (_, cs) ← field? 2 0 60 cs
  match cs with
  | '.' :: c :: rest => if c.isDigit then return rest.dropWhile Char.isDigit else return cs
  | cs => return cs

/-- The rest of a text behind the offset of a time, if there is one. -/
def skipOffset (cs : List Char) : List Char :=
  match cs with
  | 'Z' :: rest => rest
  | 'z' :: rest => rest
  | c :: rest =>
    if c = '+' ∨ c = '-' then
      let offset? : Option (List Char) := do
        let (_, rest) ← field? 2 0 23 rest
        let rest ← expect? ':' rest
        let (_, rest) ← field? 2 0 59 rest
        return rest
      offset?.getD cs
    else cs
  | [] => []

/-- The rest of a text behind the time that follows a date, if there is one. -/
def skipTime (cs : List Char) : List Char :=
  match cs with
  | c :: rest =>
    if c = 'T' ∨ c = 't' ∨ c = ' ' then
      match time? rest with
      | some rest => skipOffset rest
      | none => cs
    else cs
  | [] => []

/-- A date, a time or both. -/
def datetime? (cs : List Char) : Option (Toml × List Char) :=
  match date? cs with
  | some cs => some (.datetime, skipTime cs)
  | none => (time? cs).map fun cs => (.datetime, cs)

/-- A value without parts. -/
def scalarValue? (cs : List Char) : Option (Toml × List Char) :=
  match cs with
  | '"' :: _ => (string? cs).map fun (s, cs) => (.string s, cs)
  | '\'' :: _ => (string? cs).map fun (s, cs) => (.string s, cs)
  | 't' :: 'r' :: 'u' :: 'e' :: cs => some (.boolean true, cs)
  | 'f' :: 'a' :: 'l' :: 's' :: 'e' :: cs => some (.boolean false, cs)
  | cs => (((datetime? cs).or (decimal? cs)).or (special? cs)).or (integer? cs)

end ScanIndex.Toml
