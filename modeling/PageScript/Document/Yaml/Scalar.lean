import PageScript.Document.Yaml.Cursor
import PageScript.Text.Numeral

/-!
# Scalars of YAML texts

How the five styles of scalars are read: plain, in single or double quotes, and the two block
styles. Lines of a scalar are folded: one line end between lines counts as a blank, and of several
the first does not count. In a literal block they are kept. Reading ends with nothing where a scalar
is ill formed.
-/

namespace PageScript.Yaml

/-- The style of a scalar, as far as it matters what the scalar stands for. -/
inductive Style where
  | plain
  | quoted
  deriving DecidableEq, Repr

/-- White space between words of a scalar: blanks of a line, or line ends, of which the first is
kept apart. -/
structure Gap where
  blanks : List Char := []
  first : List Char := []
  others : List Char := []
  /-- Whether a line has ended. -/
  broken : Bool := false

namespace Gap

/-- What a gap stands for. -/
def text (g : Gap) : List Char :=
  if g.broken then
    if g.first == ['\n'] then (if g.others.isEmpty then [' '] else g.others)
    else g.first ++ g.others
  else g.blanks

/-- Adds the end of a line. -/
def addBreak (g : Gap) (lineBreak : List Char) : Gap :=
  if g.broken then { g with others := g.others ++ lineBreak }
  else { g with blanks := [], first := lineBreak, broken := true }

/-- Adds a blank, which counts only before the first line end. -/
def addBlank (g : Gap) (c : Char) : Gap :=
  if g.broken then g else { g with blanks := g.blanks ++ [c] }

end Gap

/-- Reads blanks and line ends. Within them a tab must not stand where a line is to be indented, if
`indent` says how far. -/
def readGap (indent : Option Nat) : Nat → Gap → Cursor → Option (Gap × Cursor)
  | 0, g, p => some (g, p)
  | fuel + 1, g, p =>
    match p.peek with
    | none => some (g, p)
    | some c =>
      if isBlank c then
        -- a tab that would have to be indentation is none
        if g.broken && c == '\t' && indent.any (p.column < ·) then none
        else readGap indent fuel (g.addBlank c) p.skip
      else if isBreak c then readGap indent fuel (g.addBreak p.lineBreak) p.skipLine
      else some (g, p)

/-! ## Plain scalars -/

/-- Whether a plain scalar ends before the next character. -/
def plainEnds (inFlow : Bool) (p : Cursor) : Bool :=
  (p.at_ ':' && p.atGap 1) || (inFlow && p.atOneOf ",[]\x7b\x7d")

/-- Reads the characters of a plain scalar up to the next gap or its end. -/
def readPlainWord (inFlow : Bool) : Nat → List Char → Cursor → Option (List Char × Cursor)
  | 0, w, p => some (w, p)
  | fuel + 1, w, p =>
    if p.atGap then some (w, p)
    else if inFlow && p.at_ ':' && p.atOneOf ",?[]\x7b\x7d" 1 then none
    else if plainEnds inFlow p then some (w, p)
    else readPlainWord inFlow fuel (w ++ p.rest.take 1) p.skip

/-- A scalar that has been read: its text, where it ends, and whether a line has ended after it. -/
structure PlainScalar where
  text : List Char
  cursor : Cursor
  broken : Bool

/-- Reads a plain scalar whose lines, but for the first, must be indented. -/
def readPlain (inFlow : Bool) (indent : Nat) :
    Nat → List Char → Gap → Cursor → Option PlainScalar
  | 0, text, g, p => some ⟨text, p, g.broken⟩
  | fuel + 1, text, g, p =>
    if p.atDocumentSign || p.at_ '#' then some ⟨text, p, g.broken⟩
    else do
      let (word, p) ← readPlainWord inFlow (p.rest.length + 1) [] p
      let (text, g) := if word.isEmpty then (text, g) else (text ++ g.text ++ word, {})
      if !(p.atBlank || p.atBreak) then return ⟨text, p, g.broken⟩
      let (g, p) ← readGap (some indent) (p.rest.length + 1) g p
      if !inFlow && p.column < indent then return ⟨text, p, g.broken⟩
      readPlain inFlow indent fuel text g p

/-! ## Quoted scalars -/

/-- What an escape of one letter stands for. -/
def escapeOf? (c : Char) : Option Nat :=
  match c with
  | '0' => some 0x00
  | 'a' => some 0x07
  | 'b' => some 0x08
  | 't' | '\t' => some 0x09
  | 'n' => some 0x0A
  | 'v' => some 0x0B
  | 'f' => some 0x0C
  | 'r' => some 0x0D
  | 'e' => some 0x1B
  | ' ' => some 0x20
  | '"' => some 0x22
  | '/' => some 0x2F
  | '\\' => some 0x5C
  | 'N' => some 0x85
  | '_' => some 0xA0
  | 'L' => some 0x2028
  | 'P' => some 0x2029
  | _ => none

/-- The number of hexadecimal digits after an escape of a letter. -/
def escapeDigits? (c : Char) : Option Nat :=
  match c with
  | 'x' => some 2
  | 'u' => some 4
  | 'U' => some 8
  | _ => none

/-- Reads an escape, which starts with a backslash: its character and where it ends. -/
def readEscape (p : Cursor) : Option (Char × Cursor) := do
  let c ← p.peek 1
  match escapeDigits? c with
  | none => return (Char.ofNat (← escapeOf? c), p.skipMany 2)
  | some n =>
    let digits := (p.rest.drop 2).take n
    if digits.length < n then none
    let value ← Text.readDigits? 16 digits
    if (0xD800 ≤ value && value ≤ 0xDFFF) || 0x10FFFF < value then none
    return (Char.ofNat value, p.skipMany (2 + n))

/-- Reads the characters of a quoted scalar up to the next gap or its end; an escaped line end
begins a gap that counts as nothing. -/
def readQuotedWord (quote : Char) : Nat → List Char → Cursor → Option (List Char × Bool × Cursor)
  | 0, w, p => some (w, false, p)
  | fuel + 1, w, p =>
    if p.atGap then some (w, false, p)
    else if quote == '\'' && p.at_ '\'' && p.at_ '\'' 1 then
      readQuotedWord quote fuel (w ++ ['\'']) (p.skipMany 2)
    else if p.at_ quote then some (w, false, p)
    else if quote == '"' && p.at_ '\\' then
      -- the line goes on after its end
      if p.atBreak 1 then some (w, true, p.skip.skipLine)
      else
        match readEscape p with
        | some (c, p) => readQuotedWord quote fuel (w ++ [c]) p
        | none => none
    else readQuotedWord quote fuel (w ++ p.rest.take 1) p.skip

/-- Reads a quoted scalar after its opening quote. -/
def readQuoted (quote : Char) : Nat → List Char → Cursor → Option (List Char × Cursor)
  | 0, _, _ => none
  | fuel + 1, text, p => do
    if p.atDocumentSign || p.isEnd then none
    let (word, escaped, p) ← readQuotedWord quote (p.rest.length + 1) [] p
    if p.at_ quote then return (text ++ word, p.skip)
    let (g, p) ← readGap none (p.rest.length + 1) { broken := escaped } p
    readQuoted quote fuel (text ++ word ++ g.text) p

/-! ## Block scalars -/

/-- What happens to the line ends after the last line of a block. -/
inductive Chomping where
  | clip
  | strip
  | keep
  deriving DecidableEq, Repr

/-- The head of a block: how its end is treated and how far it is indented, if that is said. -/
structure BlockHead where
  chomping : Chomping := .clip
  indent : Option Nat := none

/-- Reads a sign for the end of a block, if there is one. -/
def readChomping (p : Cursor) : Option Chomping :=
  if p.at_ '+' then some .keep else if p.at_ '-' then some .strip else none

/-- Reads a digit for the indentation of a block, if there is one. -/
def readIndent (p : Cursor) : Option Nat :=
  (p.peek.filter Char.isDigit).map fun c => c.toNat - '0'.toNat

/-- Reads the head of a block, after its first sign, up to the end of the line. -/
def readBlockHead (p : Cursor) : Option (BlockHead × Cursor) := do
  let (head, p) : BlockHead × Cursor :=
    match readChomping p with
    | some chomping =>
      match readIndent p.skip with
      | some n => ({ chomping, indent := some n }, p.skip.skip)
      | none => ({ chomping }, p.skip)
    | none =>
      match readIndent p with
      | some n =>
        match readChomping p.skip with
        | some chomping => ({ chomping, indent := some n }, p.skip.skip)
        | none => ({ indent := some n }, p.skip)
      | none => ({}, p)
  if head.indent == some 0 then none
  let p := p.skipWhile isBlank
  let p := if p.at_ '#' then p.skipToBreak else p
  if !p.atBreakOrEnd then none
  return (head, p.passLine)

/-- Reads empty lines of a block; `indent` is zero as long as it is not known. Tells how far the
lines go at most. -/
def readEmptyLines (indent : Nat) :
    Nat → Nat → List Char → Cursor → Option (Nat × List Char × Cursor)
  | 0, most, breaks, p => some (most, breaks, p)
  | fuel + 1, most, breaks, p =>
    let room := if indent = 0 then p.rest.length else indent - p.column
    let p := p.skipMany ((p.rest.take room).takeWhile (· == ' ')).length
    let most := max most p.column
    if (indent = 0 || p.column < indent) && p.at_ '\t' then none
    else if p.atBreak then readEmptyLines indent fuel most (breaks ++ p.lineBreak) p.skipLine
    else some (most, breaks, p)

/-- The lines of a block so far. -/
structure BlockDraft where
  text : List Char := []
  /-- The end of the last line. -/
  lineEnd : List Char := []
  /-- The empty lines after it. -/
  empty : List Char := []
  /-- Whether the last line started with a blank. -/
  blank : Bool := false

/-- Reads the lines of a block that are indented as they must be. -/
def readBlockLines (folded : Bool) (indent : Nat) :
    Nat → BlockDraft → Cursor → Option (BlockDraft × Cursor)
  | 0, d, p => some (d, p)
  | fuel + 1, d, p =>
    if p.column != indent || p.isEnd then some (d, p)
    else do
      let blank := p.atBlank
      -- lines are joined by a blank unless one of them starts with a blank itself
      let join :=
        if folded && d.lineEnd == ['\n'] && !d.blank && !blank then
          if d.empty.isEmpty then [' '] else []
        else d.lineEnd
      let line := p.rest.takeWhile fun c => !isBreak c
      let p := p.skipMany line.length
      let lineEnd := p.lineBreak
      let p := p.passLine
      let (_, empty, p) ← readEmptyLines indent (p.rest.length + 1) 0 [] p
      readBlockLines folded indent fuel
        { text := d.text ++ join ++ d.empty ++ line, lineEnd, empty, blank } p

/-- Reads a block scalar after its first sign, within a block that is indented so far, or not at
all. -/
def readBlock (folded : Bool) (outer : Option Nat) (p : Cursor) : Option (List Char × Cursor) := do
  let (head, p) ← readBlockHead p
  let said := (head.indent.map fun n => outer.getD 0 + n).getD 0
  let (most, empty, p) ← readEmptyLines said (p.rest.length + 1) 0 [] p
  let least := match outer with
    | some n => n + 1
    | none => 1
  let indent := if said = 0 then max (max most least) 1 else said
  let (d, p) ← readBlockLines folded indent (p.rest.length + 1) { empty } p
  let lineEnd := if head.chomping == .strip then [] else d.lineEnd
  let empty := if head.chomping == .keep then d.empty else []
  return (d.text ++ lineEnd ++ empty, p)

end PageScript.Yaml
