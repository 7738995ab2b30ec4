import PageScript.Document.Yaml.Scalar
import PageScript.Document.Yaml.Tag

/-!
# Tokens of YAML texts

A text is cut into tokens from left to right. Blocks are shown by indentation, so tokens that start
and end blocks are put in where no character stands for them. A key of a mapping is known as one
only when the colon after it is met; until then the place is remembered where a key may have
started, and the tokens that say so are put in there. Such a key stands on one line and is not too
long. A byte order mark at the start of a line is passed over but takes up a column, so that what
follows it is indented.
-/

namespace PageScript.Yaml

inductive Token where
  | directive (d : Directive)
  | documentStart
  | documentEnd
  | blockSequenceStart
  | blockMappingStart
  | blockEnd
  | flowSequenceStart
  | flowSequenceEnd
  | flowMappingStart
  | flowMappingEnd
  | blockEntry
  | flowEntry
  | key
  | value
  | alias (name : String)
  | anchor (name : String)
  | tag (t : WrittenTag)
  | scalar (style : Style) (text : String)
  deriving Repr

/-- A place where a key may have started. -/
structure KeyPlace where
  /-- The number of tokens before it. -/
  number : Nat
  index : Nat
  line : Nat
  column : Nat
  /-- Whether the text is ill formed unless a key starts there. -/
  required : Bool
  deriving Repr

/-- The state of cutting a text into tokens. -/
structure Scanner where
  cursor : Cursor
  /-- The tokens so far, the last first. -/
  tokens : List Token := []
  /-- The columns of the open blocks, the innermost first. -/
  blocks : List Nat := []
  /-- Where a key may have started in each open flow, the innermost first, and at last outside of
  flows. -/
  keys : List (Option KeyPlace) := [none]
  /-- Whether a key may start here. -/
  keyAllowed : Bool := true
  deriving Repr

namespace Scanner

/-- Whether reading is inside a flow. -/
def inFlow (s : Scanner) : Bool := 1 < s.keys.length

/-- Adds a token. -/
def add (s : Scanner) (t : Token) : Scanner :=
  { s with tokens := t :: s.tokens }

/-- Puts a token in after a number of others. -/
def putIn (s : Scanner) (number : Nat) (t : Token) : Scanner :=
  let later := s.tokens.length - number
  { s with tokens := s.tokens.take later ++ t :: s.tokens.drop later }

/-- Passes over characters. -/
def pass (s : Scanner) (n : Nat) : Scanner :=
  { s with cursor := s.cursor.skipMany n }

/-! ## Blocks and keys -/

/-- Ends the blocks that are indented further than a column, or all of them. -/
def closeBlocks (s : Scanner) (column : Option Nat) : Scanner :=
  if s.inFlow then s
  else
    let further := fun block => column.all (· < block)
    let closed := (s.blocks.takeWhile further).length
    { s with
      blocks := s.blocks.dropWhile further
      tokens := List.replicate closed .blockEnd ++ s.tokens }

/-- Starts a block at a column after a number of tokens, unless there is one already. -/
def openBlock (s : Scanner) (column number : Nat) (start : Token) : Scanner :=
  if s.inFlow || s.blocks.head?.any (column ≤ ·) then s
  else { s.putIn number start with blocks := column :: s.blocks }

/-- Forgets where a key may have started; this fails if there has to be one. -/
def dropKey (s : Scanner) : Option Scanner :=
  match s.keys with
  | some k :: outer => if k.required then none else some { s with keys := none :: outer }
  | _ => some s

/-- Remembers that a key may start here. -/
def offerKey (s : Scanner) : Option Scanner :=
  if s.keyAllowed then do
    let s ← s.dropKey
    let here : KeyPlace :=
      { number := s.tokens.length
        index := s.cursor.index
        line := s.cursor.line
        column := s.cursor.column
        required := !s.inFlow && s.blocks.head? == some s.cursor.column }
    return { s with keys := some here :: s.keys.tail }
  else some s

/-- How many octets long a key can be. -/
def longestKey : Nat := 1024

/-- Whether a key that started at a place can still end here. -/
def canEnd (s : Scanner) (k : KeyPlace) : Bool :=
  s.cursor.line ≤ k.line && s.cursor.index ≤ k.index + longestKey

/-- Forgets the places of keys that cannot end here any more; this fails if one has to. -/
def dropOldKeys (s : Scanner) : Option Scanner := do
  let keys ← s.keys.mapM fun
    | none => some none
    | some k =>
      if s.canEnd k then some (some k) else if k.required then none else some none
  return { s with keys }

/-! ## Between tokens -/

/-- Passes over blanks, comments and line ends. -/
def passGap : Nat → Scanner → Scanner
  | 0, s => s
  | fuel + 1, s =>
    let p := s.cursor
    let p := if p.column == 0 && (p.peek.any fun c => c.toNat == 0xFEFF) then p.skip else p
    -- a tab must not stand where a key could be indented by it
    let tabs := s.inFlow || !s.keyAllowed
    let p := p.skipWhile fun c => c == ' ' || (tabs && c == '\t')
    let p := if p.at_ '#' then p.skipToBreak else p
    if p.atBreak then
      passGap fuel { s with cursor := p.skipLine, keyAllowed := s.keyAllowed || !s.inFlow }
    else { s with cursor := p }

/-! ## Single tokens -/

/-- Reads a directive or a sign between documents, for which all blocks end. -/
def readOutside (s : Scanner) (read : Cursor → Option (Token × Cursor)) : Option Scanner := do
  let s ← (s.closeBlocks none).dropKey
  let (token, cursor) ← read s.cursor
  return { s.add token with cursor, keyAllowed := false }

/-- Reads the start of a flow, which may be part of a key. -/
def readFlowStart (s : Scanner) (token : Token) : Option Scanner := do
  let s ← s.offerKey
  return { (s.add token).pass 1 with keys := none :: s.keys, keyAllowed := true }

def readFlowEnd (s : Scanner) (token : Token) : Option Scanner := do
  let s ← s.dropKey
  return { (s.add token).pass 1 with
    keys := if s.inFlow then s.keys.tail else s.keys
    keyAllowed := false }

/-- Reads a comma of a flow. -/
def readFlowEntry (s : Scanner) : Option Scanner := do
  let s ← s.dropKey
  return { (s.add .flowEntry).pass 1 with keyAllowed := true }

/-- Reads the dash of an entry, which may start a block. -/
def readBlockEntry (s : Scanner) : Option Scanner := do
  if !s.inFlow && !s.keyAllowed then none
  let s ← (s.openBlock s.cursor.column s.tokens.length .blockSequenceStart).dropKey
  return { (s.add .blockEntry).pass 1 with keyAllowed := true }

/-- Reads the sign before a key, which may start a block. -/
def readKey (s : Scanner) : Option Scanner := do
  if !s.inFlow && !s.keyAllowed then none
  let s ← (s.openBlock s.cursor.column s.tokens.length .blockMappingStart).dropKey
  return { (s.add .key).pass 1 with keyAllowed := !s.inFlow }

/-- Reads the colon before a value. If a key may have started before, it has. -/
def readValue (s : Scanner) : Option Scanner :=
  match s.keys with
  | some k :: outer =>
    -- the key has been read already, so its tokens go before it
    let s := (s.putIn k.number .key).openBlock k.column k.number .blockMappingStart
    some { (s.add .value).pass 1 with keys := none :: outer, keyAllowed := false }
  | _ =>
    if !s.inFlow && !s.keyAllowed then none
    else
      let s := s.openBlock s.cursor.column s.tokens.length .blockMappingStart
      some { (s.add .value).pass 1 with keyAllowed := !s.inFlow }

/-- Reads a token that may be a key. -/
def readPart (s : Scanner) (read : Cursor → Option (Token × Cursor)) : Option Scanner := do
  let s ← s.offerKey
  let (token, cursor) ← read s.cursor
  return { s.add token with cursor, keyAllowed := false }

/-- Reads a quoted scalar. -/
def readQuotedPart (s : Scanner) (quote : Char) : Option Scanner :=
  s.readPart fun p => do
    let (text, p) ← readQuoted quote (p.rest.length + 1) [] p.skip
    return (.scalar .quoted (String.ofList text), p)

/-- Reads a block scalar, after which a key may start. -/
def readBlockPart (s : Scanner) (folded : Bool) : Option Scanner := do
  let s ← s.dropKey
  let (text, cursor) ← readBlock folded s.blocks.head? s.cursor.skip
  return { s.add (.scalar .quoted (String.ofList text)) with cursor, keyAllowed := true }

/-- Reads a plain scalar; after it a key may start if a line has ended. -/
def readPlainPart (s : Scanner) : Option Scanner := do
  let s ← s.offerKey
  let indent := match s.blocks.head? with
    | some column => column + 1
    | none => 0
  let scalar ← readPlain s.inFlow indent (s.cursor.rest.length + 1) [] {} s.cursor
  return { s.add (.scalar .plain (String.ofList scalar.text)) with
    cursor := scalar.cursor
    keyAllowed := scalar.broken }

/-- Whether a plain scalar can start here. -/
def plainStarts (s : Scanner) : Bool :=
  let p := s.cursor
  let indicator := p.atOneOf "-?:,[]\x7b\x7d#&*!|>'\"%@" || (p.peek.any fun c => c.toNat == 0x60)
  !(p.atGap || indicator)
    || (p.at_ '-' && !p.atBlank 1)
    || (!s.inFlow && (p.at_ '?' || p.at_ ':') && !p.atGap 1)

/-- Reads the next token, which starts here. -/
def readToken (s : Scanner) : Option Scanner :=
  let p := s.cursor
  let signEnds := s.inFlow || p.atGap 1
  if p.column == 0 && p.at_ '%' then
    s.readOutside fun p => (readDirective p).map fun (d, p) => (.directive d, p)
  else if p.atDocumentSign then
    s.readOutside fun p => some (if p.at_ '-' then .documentStart else .documentEnd, p.skipMany 3)
  else if p.at_ '[' then s.readFlowStart .flowSequenceStart
  else if p.at_ '\x7b' then s.readFlowStart .flowMappingStart
  else if p.at_ ']' then s.readFlowEnd .flowSequenceEnd
  else if p.at_ '\x7d' then s.readFlowEnd .flowMappingEnd
  else if p.at_ ',' then s.readFlowEntry
  else if p.at_ '-' && p.atGap 1 then s.readBlockEntry
  else if p.at_ '?' && signEnds then s.readKey
  else if p.at_ ':' && signEnds then s.readValue
  else if p.at_ '*' then
    s.readPart fun p => (readAnchorName p.skip).map fun (name, p) => (.alias name, p)
  else if p.at_ '&' then
    s.readPart fun p => (readAnchorName p.skip).map fun (name, p) => (.anchor name, p)
  else if p.at_ '!' then
    s.readPart fun p => (readTag s.inFlow p).map fun (t, p) => (.tag t, p)
  else if p.at_ '|' && !s.inFlow then s.readBlockPart false
  else if p.at_ '>' && !s.inFlow then s.readBlockPart true
  else if p.at_ '\'' then s.readQuotedPart '\''
  else if p.at_ '"' then s.readQuotedPart '"'
  else if s.plainStarts then s.readPlainPart
  else none

/-- Reads the tokens of a text to its end. -/
def readAll : Nat → Scanner → Option (List Token)
  | 0, _ => none
  | fuel + 1, s => do
    let s ← (s.passGap (s.cursor.rest.length + 1)).dropOldKeys
    let s := s.closeBlocks (some s.cursor.column)
    if s.cursor.isEnd then
      let s ← (s.closeBlocks none).dropKey
      return s.tokens.reverse
    else readAll fuel (← s.readToken)

end Scanner

/-- The tokens of a text, if it is well formed so far. -/
def tokens? (text : String) : Option (List Token) :=
  let chars := text.toList
  if chars.all isAllowed then
    Scanner.readAll (chars.length + 2) { cursor := { rest := chars } }
  else none

end PageScript.Yaml
