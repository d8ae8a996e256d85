import ScanIndex.Text.Digit

/-!
# Blanks, comments, strings and keys of TOML

The pieces of a document below its values.  Every reader takes the characters of the rest of a text
and returns what stands at its front and the characters behind it.
-/

namespace ScanIndex.Toml

/-- The character is a blank within a line. -/
def isGap (c : Char) : Bool := c = ' ' || c = '\t'

/-- The rest of a text behind blanks. -/
def skipGap (cs : List Char) : List Char := cs.dropWhile isGap

/-- The character is no control character, or a tab. -/
def isPlain (c : Char) : Bool := c = '\t' || (0x20 ≤ c.toNat && c.toNat ≠ 0x7f)

/-- The rest of a text behind a line break. -/
def lineBreak? : List Char → Option (List Char)
  | '\n' :: cs => some cs
  | '\r' :: '\n' :: cs => some cs
  | _ => none

/-- The rest of a text behind a comment, which begins with `#`. -/
def skipComment : List Char → List Char
  | '#' :: cs => cs.dropWhile isPlain
  | cs => cs

/-- The rest of a text behind the end of a line. -/
def lineEnd? (cs : List Char) : Option (List Char) :=
  match skipComment (skipGap cs) with
  | [] => some []
  | cs => lineBreak? cs

/-- The rest of a text behind blanks, comments and line breaks. -/
def skipLines : (inComment : Bool) → List Char → List Char
  | _, [] => []
  | _, '\n' :: cs => skipLines false cs
  | _, '\r' :: '\n' :: cs => skipLines false cs
  | false, c :: cs =>
    if isGap c then skipLines false cs else if c = '#' then skipLines true cs else c :: cs
  | true, c :: cs => if isPlain c then skipLines true cs else c :: cs

/-- The character that some hexadecimal digits stand for. -/
def scalar? (digits : List Char) : Option Char :=
  let n := digitsValue 16 digits
  if digits.all (isDigitOf 16) && n.isValidChar then some (Char.ofNat n) else none

/-- The character that an escape stands for, of which the backslash has been read. -/
def escape? : List Char → Option (Char × List Char)
  | 'b' :: cs => some ('\x08', cs)
  | 't' :: cs => some ('\t', cs)
  | 'n' :: cs => some ('\n', cs)
  | 'f' :: cs => some ('\x0c', cs)
  | 'r' :: cs => some ('\r', cs)
  | '"' :: cs => some ('"', cs)
  | '\\' :: cs => some ('\\', cs)
  | 'u' :: cs =>
    if cs.length < 4 then none else (scalar? (cs.take 4)).map fun c => (c, cs.drop 4)
  | 'U' :: cs =>
    if cs.length < 8 then none else (scalar? (cs.take 8)).map fun c => (c, cs.drop 8)
  | _ => none

/-- A string on one line behind its opening quote; `done` holds the characters read so far, the last
one first, and `fuel` bounds their number. -/
def basicBody? : (fuel : Nat) → (done : List Char) → List Char → Option (String × List Char)
  | 0, _, _ => none
  | fuel + 1, done, cs =>
    match cs with
    | '"' :: cs => some (String.ofList done.reverse, cs)
    | '\\' :: cs => do
      let (c, cs) ← escape? cs
      basicBody? fuel (c :: done) cs
    | c :: cs => if isPlain c then basicBody? fuel (c :: done) cs else none
    | [] => none

/-- The rest of a text behind a backslash at the end of a line, and behind the blanks and line
breaks after it. -/
def continuation? (cs : List Char) : Option (List Char) := do
  let cs ← lineBreak? (skipGap cs)
  return skip cs
where
  /-- The rest of a text behind blanks and line breaks. -/
  skip : List Char → List Char
    | '\n' :: cs => skip cs
    | '\r' :: '\n' :: cs => skip cs
    | c :: cs => if isGap c then skip cs else c :: cs
    | [] => []

/-- The quotes at the front of a text, if there are three or more: up to two that belong to the
string, and then three that close it. -/
def closing? (quote : Char) (cs : List Char) : Option (List Char × List Char) :=
  let n := (cs.takeWhile fun c => c = quote).length
  if n < 3 then none
  else
    let kept := min (n - 3) 2
    some (List.replicate kept quote, cs.drop (kept + 3))

/-- A string over several lines behind its opening quotes. -/
def multilineBody? : (fuel : Nat) → (done : List Char) → List Char → Option (String × List Char)
  | 0, _, _ => none
  | fuel + 1, done, cs =>
    match closing? '"' cs with
    | some (kept, cs) => some (String.ofList (done.reverse ++ kept), cs)
    | none =>
      match cs with
      | '\\' :: cs =>
        match continuation? cs with
        | some cs => multilineBody? fuel done cs
        | none => do
          let (c, cs) ← escape? cs
          multilineBody? fuel (c :: done) cs
      | '\n' :: cs => multilineBody? fuel ('\n' :: done) cs
      | '\r' :: '\n' :: cs => multilineBody? fuel ('\n' :: done) cs
      | c :: cs => if isPlain c then multilineBody? fuel (c :: done) cs else none
      | [] => none

/-- A literal string over several lines behind its opening quotes. -/
def multilineLiteral? : (fuel : Nat) → (done : List Char) → List Char → Option (String × List Char)
  | 0, _, _ => none
  | fuel + 1, done, cs =>
    match closing? '\'' cs with
    | some (kept, cs) => some (String.ofList (done.reverse ++ kept), cs)
    | none =>
      match cs with
      | '\n' :: cs => multilineLiteral? fuel ('\n' :: done) cs
      | '\r' :: '\n' :: cs => multilineLiteral? fuel ('\n' :: done) cs
      | c :: cs => if isPlain c then multilineLiteral? fuel (c :: done) cs else none
      | [] => none

/-- A literal string on one line behind its opening quote. -/
def literalBody? (cs : List Char) : Option (String × List Char) :=
  match cs.dropWhile fun c => isPlain c && c ≠ '\'' with
  | '\'' :: rest => some (String.ofList (cs.takeWhile fun c => isPlain c && c ≠ '\''), rest)
  | _ => none

/-- The rest of a text behind a line break, if it begins with one. -/
def skipFirstBreak (cs : List Char) : List Char := (lineBreak? cs).getD cs

/-- A string on one line. -/
def lineString? : List Char → Option (String × List Char)
  | '"' :: cs => basicBody? (cs.length + 1) [] cs
  | '\'' :: cs => literalBody? cs
  | _ => none

/-- A string of any kind. -/
def string? : List Char → Option (String × List Char)
  | '"' :: '"' :: '"' :: cs => multilineBody? (cs.length + 1) [] (skipFirstBreak cs)
  | '\'' :: '\'' :: '\'' :: cs => multilineLiteral? (cs.length + 1) [] (skipFirstBreak cs)
  | cs => lineString? cs

/-- The character may stand in a key without quotes. -/
def isKeyChar (c : Char) : Bool := c.isAlphanum || c = '_' || c = '-'

/-- A key without dots. -/
def simpleKey? (cs : List Char) : Option (String × List Char) :=
  match lineString? cs with
  | some r => some r
  | none =>
    match cs.takeWhile isKeyChar with
    | [] => none
    | name => some (String.ofList name, cs.dropWhile isKeyChar)

/-- The greatest number of values, or of parts of a key, that may be nested. -/
def maxDepth : Nat := 79

/-- The parts of a dotted key, with blanks around each; `fuel` bounds their number. -/
def keyParts? : (fuel : Nat) → List Char → Option (List String × List Char)
  | 0, _ => none
  | fuel + 1, cs => do
    let (k, cs) ← simpleKey? (skipGap cs)
    match skipGap cs with
    | '.' :: cs => do
      let (ks, cs) ← keyParts? fuel cs
      return (k :: ks, cs)
    | cs => return ([k], cs)

/-- A key. -/
def key? (cs : List Char) : Option (List String × List Char) := keyParts? maxDepth cs

end ScanIndex.Toml
