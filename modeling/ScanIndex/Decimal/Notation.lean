import ScanIndex.Decimal.Shortest

/-!
# The notation of floats

`floatText` writes a float with the fewest digits that read back.  Values from `1e-5` up to,
and not including, `1e16` are written positionally and always have a digit after the point; others
have an exponent with its sign.
-/

namespace ScanIndex

/-- The text of an exponent: its sign, then its digits. -/
def exponentText (e : Int) : String := (if e < 0 then "-" else "+") ++ toString e.natAbs

/-- The text of a decimal that is not zero. -/
def Decimal.text (d : Decimal) : String :=
  let digits := (toString d.digits).toList
  let point : Int := d.exponent + digits.length
  if 0 ≤ d.exponent ∧ point ≤ 16 then
    String.ofList (digits ++ List.replicate d.exponent.toNat '0') ++ ".0"
  else if 0 < point ∧ point ≤ 16 then
    String.ofList (digits.take point.toNat) ++ "." ++ String.ofList (digits.drop point.toNat)
  else if -5 < point ∧ point ≤ 0 then
    "0." ++ String.ofList (List.replicate (-point).toNat '0' ++ digits)
  else
    let tail := digits.drop 1
    String.ofList (digits.take 1) ++ (if tail.isEmpty then "" else "." ++ String.ofList tail)
      ++ "e" ++ exponentText (point - 1)

/-- The text of a finite float. -/
def floatText (x : Float) : String :=
  let sign := if x.toBits.toNat < 0x8000000000000000 then "" else "-"
  if x == 0 then sign ++ "0.0" else sign ++ (Binary64.ofFloat x).shortest.text

end ScanIndex
