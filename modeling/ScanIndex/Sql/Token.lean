/-!
# The tokens of SQL clauses

A clause is a list of `Token`s.  `Token.render` writes tokens as text, with one blank between
neighbours except inside brackets and before commas, and `Token.lex?` splits a text into tokens.
-/

namespace ScanIndex.Sql

/-- A comparison in a clause. -/
inductive Operator where
  | eq
  | le
  | ge
deriving DecidableEq

/-- A token of a clause. -/
inductive Token where
  /-- An opening bracket. -/
  | opening
  /-- A closing bracket. -/
  | closing
  | comma
  /-- A place for a bound value. -/
  | hole
  | operator (o : Operator)
  /-- A keyword, a name or a number. -/
  | word (w : String)
deriving DecidableEq

namespace Token

/-- The characters of a token. -/
def chars : Token → List Char
  | opening => ['(']
  | closing => [')']
  | comma => [',']
  | hole => ['?']
  | operator .eq => ['=']
  | operator .le => ['<', '=']
  | operator .ge => ['>', '=']
  | word w => w.toList

/-- No blank stands between the two tokens. -/
def touches (t u : Token) : Bool := t = opening || u = closing || u = comma

/-- The characters of a list of tokens. -/
def renderChars : List Token → List Char
  | [] => []
  | [t] => t.chars
  | t :: u :: ts => t.chars ++ (if t.touches u then [] else [' ']) ++ renderChars (u :: ts)

/-- The text of a list of tokens. -/
def render (ts : List Token) : String := String.ofList (renderChars ts)

/-- The character may stand in a word. -/
def isWordChar (c : Char) : Bool := c.isAlphanum || c = '_' || c = '.'

/-- Put the word that has been read, its last character first, in front of the tokens. -/
def flush : List Char → List Token → List Token
  | [], ts => ts
  | w, ts => word (String.ofList w.reverse) :: ts

/-- Split characters into tokens; `w` holds the word that is being read, its last character
first. -/
def lexChars (w : List Char) : List Char → Option (List Token)
  | [] => some (flush w [])
  | ' ' :: cs => (lexChars [] cs).map (flush w)
  | '(' :: cs => (lexChars [] cs).map fun ts => flush w (opening :: ts)
  | ')' :: cs => (lexChars [] cs).map fun ts => flush w (closing :: ts)
  | ',' :: cs => (lexChars [] cs).map fun ts => flush w (comma :: ts)
  | '?' :: cs => (lexChars [] cs).map fun ts => flush w (hole :: ts)
  | '=' :: cs => (lexChars [] cs).map fun ts => flush w (operator .eq :: ts)
  | '<' :: '=' :: cs => (lexChars [] cs).map fun ts => flush w (operator .le :: ts)
  | '>' :: '=' :: cs => (lexChars [] cs).map fun ts => flush w (operator .ge :: ts)
  | c :: cs => if isWordChar c then lexChars (c :: w) cs else none

/-- A character of a word is read into the word. -/
theorem lexChars_cons_wordChar {c : Char} (h : isWordChar c = true) (w cs : List Char) :
  lexChars w (c :: cs) = lexChars (c :: w) cs
  := by
  rw [lexChars]
  · rw [if_pos h]
  all_goals
    intros
    subst_vars
    exact absurd h (by decide)

/-- Split a text into tokens. -/
def lex? (text : String) : Option (List Token) := lexChars [] text.toList

end Token

end ScanIndex.Sql
