import PageScript.Bindings
import PageScript.Text.Search

/-!
# Shell lines

The text of a shell command, cut into words and signs. A word is made of pieces: plain text, text
that was quoted, and variables, quoted or not. Single quotes keep everything, double quotes keep all
but variables and backslashes, and a backslash keeps the next character.
-/

namespace PageScript

inductive WordPiece where
  | text (s : List Char)
  | variable (name : String) (quoted : Bool)
  deriving DecidableEq, Repr

/-- A word or a sign between words. -/
inductive ShellToken where
  /-- A word; `quoted` if any part of it was quoted. -/
  | word (pieces : List WordPiece) (quoted : Bool)
  | sign (s : String)
  deriving DecidableEq, Repr

namespace ShellToken

/-- How a reader of a shell line takes the next character. -/
inductive Quoting where
  | bare
  | single
  | double
  | comment
  deriving DecidableEq, Repr

/-- The word being read: its pieces in reverse, and whether it has begun and was quoted. -/
structure Draft where
  pieces : List WordPiece := []
  begun : Bool := false
  quoted : Bool := false

namespace Draft

/-- Adds a character of text. -/
def push (d : Draft) (c : Char) : Draft :=
  match d.pieces with
  | .text s :: r => { d with pieces := .text (s ++ [c]) :: r, begun := true }
  | ps => { d with pieces := .text [c] :: ps, begun := true }

/-- Enters quotes. -/
def quote (d : Draft) : Draft :=
  { d with begun := true, quoted := true }

/-- Adds the value of a variable. -/
def valueOf (d : Draft) (name : List Char) (quoted : Bool) : Draft :=
  { d with pieces := .variable (String.ofList name) quoted :: d.pieces, begun := true }

/-- The word, if one has begun. -/
def close (d : Draft) : List ShellToken :=
  if d.begun then [.word d.pieces.reverse d.quoted] else []

/-- Whether the word so far is one digit of plain text. -/
def isDigit? (d : Draft) : Option Char :=
  match d.pieces, d.quoted with
  | [.text [c]], false => if c.isDigit then some c else none
  | _, _ => none

end Draft

/-- Whether a character can stand in the name of a variable. -/
def isNameChar (c : Char) : Bool :=
  c.isAlphanum || c == '_'

/-- A sign that redirects, together with the digit before it. -/
def redirection (d : Draft) (sign : String) : List ShellToken :=
  match d.isDigit? with
  | some c => [.sign (String.ofList [c] ++ sign)]
  | none => d.close ++ [.sign sign]

/-- The special parameters of one character. -/
def isSpecial (c : Char) : Bool :=
  c == '?' || c == '$' || c == '#' || c == '@' || c == '*' || c.isDigit

/-- The name of a variable after a dollar sign, and what follows; an empty name is none. -/
def nameAfter : List Char → List Char × List Char
  | '\x7b' :: r => (r.takeWhile (· != '\x7d'), (r.dropWhile (· != '\x7d')).drop 1)
  | c :: r => if isSpecial c then ([c], r) else ((c :: r).takeWhile isNameChar,
      (c :: r).dropWhile isNameChar)
  | [] => ([], [])

theorem length_dropWhile_le (p : Char → Bool) (s : List Char) :
    (s.dropWhile p).length ≤ s.length :=
  (List.dropWhile_suffix p).length_le

/-- What follows the name of a variable is no longer than what follows the dollar sign. -/
theorem length_nameAfter_le (s : List Char) : (nameAfter s).2.length ≤ s.length := by
  unfold nameAfter
  split
  · next r =>
    have := length_dropWhile_le (· != '\x7d') r
    simp only [List.length_drop, List.length_cons]
    omega
  · next c r _ =>
    split
    · simp
    · exact length_dropWhile_le isNameChar (c :: r)
  · simp

/-- A dollar sign as part of a word: the value of a variable, or itself if no name follows. -/
def takeName (d : Draft) (quoted : Bool) (name : List Char) : Draft :=
  if name.isEmpty then d.push '$' else d.valueOf name quoted

/-- Cuts a shell line into words and signs. -/
def read : Quoting → Draft → List Char → List ShellToken
  | _, d, [] => d.close
  | .comment, _, c :: r =>
    if c = '\n' then .sign ";" :: read .bare {} r else read .comment {} r
  | .single, d, c :: r => if c = '\'' then read .bare d r else read .single (d.push c) r
  | .double, d, '"' :: r => read .bare d r
  | .double, d, '\\' :: '\n' :: r => read .double d r
  | .double, d, '\\' :: c :: r =>
    if c = '$' ∨ c.toNat = 0x60 ∨ c = '"' ∨ c = '\\' then read .double (d.push c) r
    else read .double ((d.push '\\').push c) r
  | .double, d, '$' :: r => read .double (takeName d true (nameAfter r).1) (nameAfter r).2
  | .double, d, c :: r => read .double (d.push c) r
  | .bare, d, '\\' :: '\n' :: r => read .bare d r
  | .bare, d, '\\' :: c :: r => read .bare (d.quote.push c) r
  | .bare, d, '\'' :: r => read .single d.quote r
  | .bare, d, '"' :: r => read .double d.quote r
  | .bare, d, '$' :: r => read .bare (takeName d false (nameAfter r).1) (nameAfter r).2
  | .bare, d, '&' :: '&' :: r => d.close ++ .sign "&&" :: read .bare {} r
  | .bare, d, '|' :: '|' :: r => d.close ++ .sign "||" :: read .bare {} r
  | .bare, d, '|' :: r => d.close ++ .sign "|" :: read .bare {} r
  | .bare, d, ';' :: r => d.close ++ .sign ";" :: read .bare {} r
  | .bare, d, '\n' :: r => d.close ++ .sign ";" :: read .bare {} r
  | .bare, d, '>' :: '>' :: r => redirection d ">>" ++ read .bare {} r
  | .bare, d, '>' :: '&' :: r => redirection d ">&" ++ read .bare {} r
  | .bare, d, '>' :: r => redirection d ">" ++ read .bare {} r
  | .bare, d, '<' :: r => redirection d "<" ++ read .bare {} r
  | .bare, d, c :: r =>
    if c = ' ' ∨ c = '\t' then d.close ++ read .bare {} r
    else if c = '#' ∧ d.begun = false then read .comment {} r
    else read .bare (d.push c) r
termination_by _ _ s => s.length
decreasing_by
  all_goals simp only [List.length_cons]
  all_goals first
    | omega
    | exact Nat.lt_succ_of_le (length_nameAfter_le r)

/-- The words and signs of a shell line. -/
def ofText (s : String) : List ShellToken :=
  read .bare {} s.toList

end ShellToken
end PageScript
