/-!
# A place in a YAML text

What is left of a text and how far reading has come. A line ends with a line feed, a carriage return
or both, or with one of three further characters; of these the line and paragraph separators are
kept in scalars, and all other line ends count as line feeds.
-/

namespace PageScript.Yaml

/-- What is left of a text, the number of octets before it in UTF-8, and its line and column. -/
structure Cursor where
  rest : List Char
  index : Nat := 0
  line : Nat := 0
  column : Nat := 0
  deriving Repr

/-- Whether a character ends a line. -/
def isBreak (c : Char) : Bool :=
  c == '\n' || c == '\r' || c.toNat == 0x85 || c.toNat == 0x2028 || c.toNat == 0x2029

/-- Whether a character is a blank within a line. -/
def isBlank (c : Char) : Bool := c == ' ' || c == '\t'

/-- Whether a character can stand in the name of an anchor or a tag. -/
def isNameChar (c : Char) : Bool :=
  c.isAlphanum || c == '_' || c == '-'

/-- Whether a document may hold a character at all. -/
def isAllowed (c : Char) : Bool :=
  let n := c.toNat
  n == 0x09 || n == 0x0A || n == 0x0D || (0x20 ≤ n && n ≤ 0x7E) || n == 0x85
    || (0xA0 ≤ n && n ≤ 0xD7FF) || (0xE000 ≤ n && n ≤ 0xFFFD) || 0x10000 ≤ n

namespace Cursor

/-- The character some places ahead. -/
def peek (p : Cursor) (ahead : Nat := 0) : Option Char :=
  p.rest[ahead]?

/-- Whether a certain character stands some places ahead. -/
def at_ (p : Cursor) (c : Char) (ahead : Nat := 0) : Bool :=
  p.peek ahead == some c

/-- Whether one of some characters comes next. -/
def atOneOf (p : Cursor) (cs : String) (ahead : Nat := 0) : Bool :=
  (p.peek ahead).any cs.toList.contains

/-- Whether nothing is left. -/
def isEnd (p : Cursor) : Bool := p.rest.isEmpty

/-- Whether a line ends here. -/
def atBreak (p : Cursor) (ahead : Nat := 0) : Bool := (p.peek ahead).any isBreak

/-- Whether a blank comes next. -/
def atBlank (p : Cursor) (ahead : Nat := 0) : Bool := (p.peek ahead).any isBlank

/-- Whether a line or the text ends here. -/
def atBreakOrEnd (p : Cursor) (ahead : Nat := 0) : Bool :=
  match p.peek ahead with
  | none => true
  | some c => isBreak c

/-- Whether a blank, the end of a line, or the end of the text comes next. -/
def atGap (p : Cursor) (ahead : Nat := 0) : Bool :=
  p.atBlank ahead || p.atBreakOrEnd ahead

/-- The number of octets before a place some characters ahead. -/
def indexAfter (p : Cursor) (n : Nat) : Nat :=
  (p.rest.take n).foldl (fun index c => index + c.utf8Size) p.index

/-- Passes over some characters within a line. -/
def skipMany (p : Cursor) (n : Nat) : Cursor :=
  { p with rest := p.rest.drop n, index := p.indexAfter n, column := p.column + n }

/-- Passes over one character within a line. -/
def skip (p : Cursor) : Cursor := p.skipMany 1

/-- Passes over the end of a line. -/
def skipLine (p : Cursor) : Cursor :=
  let n := if p.at_ '\r' && p.at_ '\n' 1 then 2 else 1
  { rest := p.rest.drop n, index := p.indexAfter n, line := p.line + 1, column := 0 }

/-- What the end of a line stands for in a scalar. -/
def lineBreak (p : Cursor) : List Char :=
  match p.peek with
  | none => []
  | some c => if c.toNat == 0x2028 || c.toNat == 0x2029 then [c] else ['\n']

/-- Passes over the end of a line, if there is one; at the end of the text nothing is left to pass
over. -/
def passLine (p : Cursor) : Cursor :=
  if p.isEnd then p else p.skipLine

/-- Whether a line starts here with three dashes or three dots that stand alone. -/
def atDocumentSign (p : Cursor) : Bool :=
  p.column == 0 && p.atGap 3 &&
    ((p.at_ '-' && p.at_ '-' 1 && p.at_ '-' 2) || (p.at_ '.' && p.at_ '.' 1 && p.at_ '.' 2))

/-- Passes over characters within a line as long as a condition holds. -/
def skipWhile (p : Cursor) (f : Char → Bool) : Cursor :=
  p.skipMany (p.rest.takeWhile f).length

/-- Passes over everything to the end of the line. -/
def skipToBreak (p : Cursor) : Cursor :=
  p.skipWhile fun c => !isBreak c

end Cursor
end PageScript.Yaml
