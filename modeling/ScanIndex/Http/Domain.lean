import ScanIndex.Http.Domain.Charts
import ScanIndex.Text.Bidi
import ScanIndex.Text.Invisible
import ScanIndex.Text.Joining
import ScanIndex.Text.Normal
import ScanIndex.Text.Punycode

/-!
# Names of domains

A name is made of labels between points.  `Domain.ascii?` brings a name into its usual form and
writes every label in ASCII: one that needs other characters is written in Punycode behind `xn--`.
It refuses names with characters that may not be used, and labels that could be taken for others.
-/

namespace ScanIndex.Http

namespace Domain

/-- The character is one of ASCII. -/
def isAscii (c : Char) : Bool := c.toNat < 0x80

/-- The character may not stand in a name. -/
def isForbidden (c : Char) : Bool :=
  c.toNat ≤ 0x20 || c.toNat = 0x7f || "%#/:<>?@[\\]^|".toList.contains c

/-- What a character above ASCII stands for, if it may be used. -/
def meaningAbove? (c : Char) : Option (List Char) :=
  match mappingChart.range? c with
  | some r =>
    if r.first = r.last then some (r.values.map Char.ofNat)
    else some [Char.ofNat (r.values.headD 0 + (c.toNat - r.first))]
  | none =>
    if ignoredChart.covers c then some []
    else if c = Joining.nonJoiner ∨ c = Joining.joiner then some [c]
    else if isUnprintable c || refusedChart.covers c then none
    else some [c]

/-- What a character stands for, if it may be used. -/
def meaning? (c : Char) : Option (List Char) :=
  if isAscii c then some [c.toLower] else meaningAbove? c

/-- A name in its usual form. -/
def usual? (name : List Char) : Option (List Char) :=
  if name.all isAscii then some (name.map Char.toLower)
  else (name.mapM meaning?).map fun cs => normalForm cs.flatten

/-- What stands before a label in Punycode. -/
def mark : List Char := "xn--".toList

/-- The greatest number of characters of a label in Punycode, without its mark. -/
def maxWritten : Nat := 2000

/-- The greatest number of characters of a label that is not in ASCII. -/
def maxRead : Nat := 1000

/-- A label as it is read, and as it is written in ASCII. -/
structure Label where
  read : List Char
  written : List Char

/-- The label that a text in Punycode stands for; it needs Punycode, and it is in its usual form. -/
def Label.ofPunycode? (written : List Char) : Option Label := do
  let cs := written.drop mark.length
  let read ← if cs.all isAscii && cs.length ≤ maxWritten then Punycode.decode? cs else none
  if read.all isAscii || mark.isPrefixOf read then none
  else if (read.all fun c => meaning? c = some [c]) && normalForm read = read then
    some ⟨read, written⟩
  else none

/-- The label that a text in its usual form stands for. -/
def Label.ofText? (cs : List Char) : Option Label :=
  if mark.isPrefixOf cs then ofPunycode? cs
  else if cs.all isAscii then some ⟨cs, cs⟩
  else some ⟨cs, mark ++ Punycode.encode cs⟩

/-- The label can be told from others: it does not begin with a mark, its joiners make a difference,
and it is not too long. -/
def Label.isPlain (l : Label) : Bool :=
  l.read.all isAscii
    || (l.read.length ≤ maxRead && !l.read.head?.any isMark && joinersFit l.read)

/-- The name in ASCII, if it may be used. -/
def ascii? (name : List Char) : Option (List Char) := do
  let usual ← usual? name
  let labels ← (pieces '.' usual).mapM Label.ofText?
  let isMixed := labels.any fun l => l.read.any Bidi.isLeftward
  if (labels.all fun l => l.isPlain && !l.read.any isForbidden)
      && (!isMixed || labels.all fun l => l.read.isEmpty || Bidi.isOneWay l.read) then
    return ['.'].intercalate (labels.map Label.written)
  else none

end Domain

end ScanIndex.Http
