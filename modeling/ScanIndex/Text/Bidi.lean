import ScanIndex.Text.Mark

/-!
# The direction of characters

Letters are written to the right or to the left, and other characters go along with them.
`isOneWay` holds of the texts that can be read in one direction only: nothing in them runs against
the direction of their first letter.  The charts cover the characters that the names of domains may
hold.
-/

namespace ScanIndex.Bidi

/-- The letters of class `R`. -/
def rightChart : Chart := .ofRows [
  "5be 5c0 5c3 5c6 5d0-5f4 7c0-7ea 7f4-7f5 7fa 7fe-815 81a 824 828 830-858 85e 10800-1091b",
  "10920-10a00 10a10-10a35 10a40-10ae4 10aeb-10b35 10b40-10cff 10d4a-10d4f 10d6f-10d8f 10e80-10ea9",
  "10ead-10eb1 10f00-10f27 10f70-10f81 10f86-10ff6 1e800-1e8cf 1e922-1e943 1e94b-1e95f"]

/-- The letters of class `AL`. -/
def arabicChart : Chart := .ofRows [
  "608 60b 60d 61b-64a 66d-66f 671-6d5 6e5-6e6 6ee-6ef 6fa-710 712-72f 74d-7a5 7b1 860-88f 8a0-8c9",
  "fbb2-fbc2 fe73 10d00-10d23 10ec2-10ec7 10f30-10f45 10f51-10f59 1ec71-1ed3d"]

/-- The characters of class `AN`. -/
def arabicNumberChart : Chart := .ofRows [
  "660-669 66b-66c 10d30-10d49 10e60-10e7e"]

/-- The characters of class `EN`. -/
def europeanNumberChart : Chart := .ofRows [
  "30-39 6f0-6f9 102e1-102fb"]

/-- The characters of class `ES`. -/
def separatorChart : Chart := .ofRows [
  "2b 2d 2212"]

/-- The characters of class `ET`. -/
def terminatorChart : Chart := .ofRows [
  "23-25 a2-a5 b0-b1 58f 609-60a 66a 9f2-9f3 9fb af1 bf9 e3f 17db 2030-2032 20a0-20c1 212e 2213",
  "a838-a839 11fdd-11fe0 1e2ff"]

/-- The characters of class `CS`. -/
def commonSeparatorChart : Chart := .ofRows [
  "2c 2e-2f 3a 60c 2044"]

/-- The characters of class `BN`. -/
def neutralBoundaryChart : Chart := .ofRows [
  "0-8 e-1b 7f 200c-200d"]

/-- The characters of class `ON`. -/
def otherNeutralChart : Chart := .ofRows [
  "21-22 26-2a 3b-60 7b-7e a1 a6-ae b6-d7 f7 2b9-2ba 2c2-2cf 2d2-2ed 2ef-2ff 375 3f6 58a-58e",
  "606-607 60e-60f 6de 6e9 7f6-7f9 bf3-bf8 bfa c78-c7e f3a-f3d 1390-1399 1400 169b-169c 17f0-180a",
  "1940-1945 19de-19ff 2010-2027 2035-2043 2045-205e 2104-2129 213a-214d 218a-2211 2214-2335",
  "237b-2394 2396-26ab 26ad-27ff 2900-2bff 2ce5-2cea 2cf9-2cff 2e00-3004 3008-3020 3030 3037",
  "303d-303f 30a0 30fb 31c0-31e5 4dc0-4dff a490-a4c6 a60d-a60f a673 a67e-a67f a700-a721 a788",
  "a828-a82b a874-a877 ab6a-ab6b fbc3-fdff fe45-fe46 10101 10140-1018c 10190-101a0 1091f",
  "10b39-10b3f 10d6e 10ed0-10ed8 11052-11065 11660-1166c 11fd5-11fdc 11fe1-11ff1 16fe2 1cc00-1cef0",
  "1d1e9-1d241 1d245 1d300-1d356 1eef0-1f12f 1f16d-1f16f 1f1ad 1f260-1fbfa"]

/-- The classes of characters by their direction. -/
inductive Direction where
  | left
  | right
  | arabic
  | arabicNumber
  | europeanNumber
  | separator
  | terminator
  | commonSeparator
  | boundary
  | neutral
  | nonspacing
deriving DecidableEq

/-- The code points of the nonspacing marks that are written to the right like letters. -/
def leftMarks : List Nat := [0xcbf, 0xcc6, 0x11a07, 0x11a08, 0x11c3f]

/-- The class of a character. -/
def Direction.ofChar (c : Char) : Direction :=
  if rightChart.covers c then right
  else if arabicChart.covers c then arabic
  else if arabicNumberChart.covers c then arabicNumber
  else if europeanNumberChart.covers c then europeanNumber
  else if separatorChart.covers c then separator
  else if terminatorChart.covers c then terminator
  else if commonSeparatorChart.covers c then commonSeparator
  else if neutralBoundaryChart.covers c then boundary
  else if otherNeutralChart.covers c then neutral
  else if isNonspacing c && !leftMarks.contains c.toNat then nonspacing
  else left

/-- The character is written to the left, or is a number among such letters. -/
def isLeftward (c : Char) : Bool :=
  0x80 ≤ c.toNat && (rightChart.covers c || arabicChart.covers c || arabicNumberChart.covers c)

/-- The classes that go along with every letter. -/
def common : List Direction :=
  [.europeanNumber, .separator, .commonSeparator, .terminator, .neutral, .boundary, .nonspacing]

/-- The classes without the nonspacing ones at the end. -/
def withoutTail (ds : List Direction) : List Direction :=
  (ds.reverse.dropWhile fun d => d = .nonspacing).reverse

/-- All of the classes are listed among `within`, and the last of them among `atEnd`. -/
def runsWith (within atEnd ds : List Direction) : Bool :=
  ds.all (fun d => d ∈ within) && ds.getLast?.all (fun d => d ∈ atEnd)

/-- The text can be read in one direction only. -/
def isOneWay (cs : List Char) : Bool :=
  match withoutTail (cs.map Direction.ofChar) with
  | [] => cs.isEmpty
  | .left :: ds => runsWith (.left :: common) [.left, .europeanNumber] ds
  | .right :: ds => leftward ds
  | .arabic :: ds => leftward ds
  | _ :: _ => false
where
  /-- The classes run to the left, with numbers of one kind at most. -/
  leftward (ds : List Direction) : Bool :=
    runsWith (.right :: .arabic :: .arabicNumber :: common)
        [.right, .arabic, .europeanNumber, .arabicNumber] ds
      && !(ds.contains .europeanNumber && ds.contains .arabicNumber)

end ScanIndex.Bidi
