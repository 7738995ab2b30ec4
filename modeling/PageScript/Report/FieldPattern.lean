import PageScript.Text.Blank
import PageScript.Text.Letter
import PageScript.Text.Numeral

/-!
# Patterns for the values of fields

A filter of the log can ask for the value of a field: a flag, a number, or a text that fits a
regular expression. Only the last can be ill formed. Whether an expression is well formed depends on
its modes: without tables of Unicode, no class of characters can be named and case cannot be
ignored unless only ASCII counts; and where only ASCII counts, nothing may stand for a byte that is
no character. A pattern holds neither commas nor closing braces, so nothing is repeated a given
number of times.
-/

namespace PageScript.FieldPattern

/-- The modes in which a part of an expression is read. -/
structure Modes where
  /-- Whether letters stand for both cases. -/
  anyCase : Bool := false
  /-- Whether only ASCII counts. -/
  ascii : Bool := false
  /-- Whether blanks and comments count as nothing. -/
  spaced : Bool := false
  deriving DecidableEq, Repr

namespace Modes

/-- Whether a character can stand for itself. -/
def allows (m : Modes) (c : Char) : Bool :=
  !m.anyCase || (m.ascii && c.toNat < 0x80)

/-- Switches a mode on or off; none for a letter without a mode. -/
def switch (m : Modes) (letter : Char) (on : Bool) : Option Modes :=
  match letter with
  | 'i' => some { m with anyCase := on }
  | 'u' => some { m with ascii := !on }
  | 'x' => some { m with spaced := on }
  | 'm' | 's' | 'U' | 'R' => some m
  | _ => none

/-- What is left of an expression after blanks and comments, if they count as nothing; `inComment`
says whether a comment has begun. -/
def dropSpace (m : Modes) : (inComment : Bool) → List Char → List Char
  | _, [] => []
  | inComment, c :: r =>
    if !m.spaced then c :: r
    else if inComment then dropSpace m (c != '\n') r
    else if c == '#' then dropSpace m true r
    else if Text.isBlank c then dropSpace m false r
    else c :: r

end Modes

/-! ## Escapes -/

/-- What an escape stands for. -/
inductive Escape where
  | literal (c : Char)
  /-- One of several characters. -/
  | oneOf
  /-- A place between characters. -/
  | place
  deriving DecidableEq, Repr

/-- Whether a character may stand after a backslash for itself. -/
def standsForItself (c : Char) : Bool :=
  c.toNat < 0x80 && !c.isAlphanum && c != '<' && c != '>'

/-- Reads a number of hexadecimal digits that name a character. -/
def readHex (m : Modes) (byte : Bool) (digits : Nat) (s : List Char) :
    Option (Escape × List Char) := do
  let word := s.take digits
  if word.length < digits then none
  let n ← Text.readDigits? 16 word
  if (0xD800 ≤ n && n ≤ 0xDFFF) || 0x10FFFF < n then none
  if byte && m.ascii && 0x80 ≤ n then none
  return (.literal (Char.ofNat n), s.drop digits)

/-- Reads an escape after its backslash. -/
def readEscape (m : Modes) : List Char → Option (Escape × List Char)
  | [] => none
  | c :: r =>
    match c with
    | 'x' => readHex m true 2 r
    | 'u' => readHex m false 4 r
    | 'U' => readHex m false 8 r
    | 'd' | 's' | 'w' => if m.ascii then some (.oneOf, r) else none
    | 'A' | 'z' => some (.place, r)
    | 'b' | 'B' | '<' | '>' => if m.ascii then some (.place, r) else none
    | 'a' | 'f' | 't' | 'n' | 'r' | 'v' => some (.literal c, r)
    | c => if standsForItself c then some (.literal c, r) else none

/-! ## Classes of characters in brackets -/

/-- The names of classes between colons. -/
def classNames : List String := [
  "alnum", "alpha", "ascii", "blank", "cntrl", "digit", "graph", "lower", "print", "punct", "space",
  "upper", "word", "xdigit"]

/-- Reads a class between colons after its bracket, if there is one: whether it is the class of all
other characters, and what follows it. -/
def readNamedClass : List Char → Option (Bool × List Char)
  | ':' :: r =>
    let negated := r.head? == some '^'
    let r := if negated then r.drop 1 else r
    let name := r.takeWhile (· != ':')
    match r.drop name.length with
    | ':' :: ']' :: rest =>
      if classNames.contains (String.ofList name) then some (negated, rest) else none
    | _ => none
  | _ => none

/-- Reads what opens a class after its bracket: a sign for all other characters, and characters that
stand for themselves only here. -/
def openClass (m : Modes) (s : List Char) : Option (List Char) :=
  let s := m.dropSpace false s
  let negated := s.head? == some '^'
  if negated && m.ascii then none
  else
    let s := m.dropSpace false (if negated then s.drop 1 else s)
    let dashes := s.takeWhile (· == '-')
    let s := m.dropSpace false (s.drop dashes.length)
    if dashes.isEmpty && s.head? == some ']' then some (s.drop 1) else some s

def readClassItem (m : Modes) : List Char → Option (Escape × List Char)
  | [] => none
  | '\\' :: r => readEscape m r
  | c :: r => some (.literal c, r)

/-- Whether a character or escape may stand in a class. -/
def standsInClass (m : Modes) : Escape → Bool
  | .literal c => !m.ascii || c.toNat < 0x80
  | .oneOf => true
  | .place => false

/-- Reads a character of a class, or a range of them. -/
def readClassRange (m : Modes) (s : List Char) : Option (List Char) := do
  let (low, r) ← readClassItem m s
  if !standsInClass m low then none
  let r := m.dropSpace false r
  match r with
  | [] => none
  | '-' :: after =>
    let next := m.dropSpace false after
    if next.head? == some ']' || next.head? == some '-' then return r
    let (high, rest) ← readClassItem m next
    match low, high with
    | .literal low, .literal high =>
      if low ≤ high && standsInClass m (.literal high) then return m.dropSpace false rest else none
    | _, _ => none
  | _ => return r

/-- Reads classes to the end of the outermost one; `depth` is the number of those that are open. -/
def readClass (m : Modes) : Nat → (depth : Nat) → List Char → Option (List Char)
  | 0, _, _ => none
  | fuel + 1, depth, s =>
    match m.dropSpace false s with
    | [] => none
    | '[' :: r =>
      match readNamedClass r with
      | some (negated, rest) => if negated && m.ascii then none else readClass m fuel depth rest
      | none => (openClass m r).bind (readClass m fuel (depth + 1))
    | ']' :: r => if depth ≤ 1 then some r else readClass m fuel (depth - 1) r
    | c :: d :: r =>
      if c == d && (c == '&' || c == '-' || c == '~') then readClass m fuel depth r
      else (readClassRange m (c :: d :: r)).bind (readClass m fuel depth)
    | [_] => none

/-! ## Groups -/

/-- How far an expression has been read. -/
structure Draft where
  modes : Modes := {}
  /-- The modes to come back to at the end of each open group, the innermost first. -/
  groups : List Modes := []
  names : List (List Char) := []
  /-- Whether something stands here that can be repeated. -/
  repeatable : Bool := false
  deriving Repr

/-- Reads letters for modes up to a colon or the end of the bracket: the modes that they make, and
whether a group begins. Each letter stands once, and a sign that switches off once before others. -/
def readModes : (seen : List Char) → (on : Bool) → Modes → List Char →
    Option (Modes × Bool × List Char)
  | _, _, _, [] => none
  | seen, on, m, c :: r =>
    if c == ':' || c == ')' then
      if seen.head? == some '-' || (c == ')' && seen.isEmpty) then none
      else some (m, c == ':', r)
    else if seen.contains c then none
    else if c == '-' then readModes ('-' :: seen) false m r
    else (m.switch c on).bind fun m => readModes (c :: seen) on m r

/-- Whether a name of a group is well formed. -/
def isGroupName : List Char → Bool
  | [] => false
  | c :: r =>
    (c == '_' || (Text.isLetterOrNumber c && !c.isDigit))
      && r.all fun c => c == '_' || c == '.' || c == '[' || c == ']' || Text.isLetterOrNumber c

def Draft.beginGroup (d : Draft) (inside : Modes) : Draft :=
  { d with modes := inside, groups := d.modes :: d.groups, repeatable := false }

/-- Reads the name of a group and begins it. -/
def Draft.beginNamed (d : Draft) (s : List Char) : Option (Draft × List Char) :=
  let name := s.takeWhile (· != '>')
  match s.drop name.length with
  | _ :: rest =>
    if isGroupName name && !d.names.contains name then
      some ({ d with names := name :: d.names }.beginGroup d.modes, rest)
    else none
  | [] => none

/-- Reads what follows the bracket of a group. -/
def Draft.readGroup (d : Draft) (s : List Char) : Option (Draft × List Char) :=
  match d.modes.dropSpace false s with
  | '?' :: 'P' :: '<' :: r | '?' :: '<' :: r => d.beginNamed r
  | '?' :: r => do
    let (modes, begins, rest) ← readModes [] true d.modes r
    if begins then return (d.beginGroup modes, rest)
    else return ({ d with modes, repeatable := false }, rest)
  | r => some (d.beginGroup d.modes, r)

/-- Ends a group, if one is open. -/
def Draft.endGroup (d : Draft) : Option Draft :=
  match d.groups with
  | modes :: groups => some { d with modes, groups, repeatable := true }
  | [] => none

/-! ## Expressions -/

/-- Whether what is left of an expression is well formed. -/
def isWhole : Nat → Draft → List Char → Bool
  | 0, _, _ => false
  | fuel + 1, d, s =>
    let whole (d : Draft) (r : List Char) : Bool := isWhole fuel { d with repeatable := true } r
    match d.modes.dropSpace false s with
    | [] => d.groups.isEmpty
    | c :: r =>
      match c with
      | '(' =>
        match d.readGroup r with
        | some (d, r) => isWhole fuel d r
        | none => false
      | ')' =>
        match d.endGroup with
        | some d => isWhole fuel d r
        | none => false
      | '|' => isWhole fuel { d with repeatable := false } r
      | '*' | '+' | '?' => d.repeatable && whole d (if r.head? == some '?' then r.drop 1 else r)
      | '\x7b' => false
      | '[' =>
        let class? := (openClass d.modes r).bind (readClass d.modes (r.length + 1) 1)
        match class? with
        | some r => (!d.modes.anyCase || d.modes.ascii) && whole d r
        | none => false
      | '\\' =>
        match readEscape d.modes r with
        | some (.literal c, r) => d.modes.allows c && whole d r
        | some (_, r) => whole d r
        | none => false
      | '.' => !d.modes.ascii && whole d r
      | '^' | '$' => whole d r
      | c => d.modes.allows c && whole d r

/-- Whether a text is a number without a sign. -/
def isNumber (s : List Char) : Bool :=
  let word := (String.ofList s).toLower
  let rest := s.dropWhile Char.isDigit
  let point := rest.head? == some '.'
  let fraction := if point then (rest.drop 1).takeWhile Char.isDigit else []
  let rest' := if point then (rest.drop 1).dropWhile Char.isDigit else rest
  let exponent := match rest' with
    | [] => true
    | c :: r => (c == 'e' || c == 'E') && (Text.readInt? 10 r).isSome
  word == "inf" || word == "infinity" || word == "nan"
    || (!((s.takeWhile Char.isDigit).isEmpty && fraction.isEmpty) && exponent)

/-- Whether a pattern is well formed: an expression, or a number with a plus sign. -/
def isWellFormed : List Char → Bool
  | '+' :: r => isNumber r
  | s => isWhole (s.length + 1) {} s

end PageScript.FieldPattern
