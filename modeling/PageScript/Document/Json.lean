import PageScript.Text.Numeral

/-!
# JSON documents

JSON texts as trees. Records keep their entries in the order of the document and repeated names as
they are. Numbers are kept as written. A string in which half of a surrogate pair stands alone is no
text, but a document that holds one is still a document.

A text is first cut into tokens, and the tokens are then put together on a stack of lists and
records that are not complete yet.
-/

namespace PageScript

/-- A JSON tree. -/
inductive JsonValue where
  | null
  | flag (b : Bool)
  /-- A number as written. -/
  | number (literal : List Char)
  /-- A string; none if it is no text. -/
  | text (s : Option String)
  | list (items : List JsonValue)
  | record (entries : List (Option String × JsonValue))

namespace JsonValue

/-! ## Tokens -/

/-- The smallest parts of a JSON text. -/
inductive Token where
  | openList
  | closeList
  | openRecord
  | closeRecord
  | comma
  | colon
  | text (s : Option String)
  | number (literal : List Char)
  /-- A run of letters. -/
  | word (letters : List Char)
  deriving DecidableEq, Repr

/-- Whether a number is the first half of a surrogate pair. -/
def isHigh (n : Nat) : Bool := 0xD800 ≤ n && n < 0xDC00

/-- Whether a number is the second half of a surrogate pair. -/
def isLow (n : Nat) : Bool := 0xDC00 ≤ n && n < 0xE000

/-- A unit of a string: a character as it stands, or a number that was written out. -/
inductive Piece where
  | char (c : Char)
  | escape (n : Nat)
  deriving DecidableEq, Repr

/-- The text that pieces make, if surrogate pairs are whole. -/
def joinPieces : List Piece → Option (List Char)
  | [] => some []
  | .char c :: r => (joinPieces r).map (c :: ·)
  | .escape n :: r =>
    if isLow n then none
    else if isHigh n then
      match r with
      | .escape m :: r =>
        if isLow m then
          (joinPieces r).map (Char.ofNat (0x10000 + (n - 0xD800) * 0x400 + (m - 0xDC00)) :: ·)
        else none
      | _ => none
    else (joinPieces r).map (Char.ofNat n :: ·)

/-- The string that pieces, the last one first, make. -/
def textOf (pieces : List Piece) : Option String :=
  (joinPieces pieces.reverse).map String.ofList

/-- The character a letter stands for after a backslash. -/
def escapeOf? (c : Char) : Option Char :=
  match c with
  | '"' => some '"'
  | '\\' => some '\\'
  | '/' => some '/'
  | 'b' => some (Char.ofNat 8)
  | 'f' => some (Char.ofNat 12)
  | 'n' => some '\n'
  | 'r' => some '\r'
  | 't' => some '\t'
  | _ => none

/-- Where a reader of tokens stands. -/
inductive Place where
  | between
  | inString (pieces : List Piece)
  | afterBackslash (pieces : List Piece)
  /-- Some hexadecimal digits have been read, with a value. -/
  | inEscape (pieces : List Piece) (digits value : Nat)
  | inNumber (literal : List Char)
  | inWord (letters : List Char)
  deriving DecidableEq, Repr

/-- Whether a character can stand in a number. -/
def isNumberChar (c : Char) : Bool :=
  c.isDigit || c == '-' || c == '+' || c == '.' || c == 'e' || c == 'E'

/-- Whether a character can stand in a word. -/
def isWordChar (c : Char) : Bool := 'a' ≤ c && c ≤ 'z'

/-- What a character between tokens begins or is; none if it cannot stand there. -/
def begin? (c : Char) : Option (List Token × Place) :=
  match c with
  | ' ' | '\n' | '\r' | '\t' => some ([], .between)
  | '[' => some ([.openList], .between)
  | ']' => some ([.closeList], .between)
  | '\x7b' => some ([.openRecord], .between)
  | '\x7d' => some ([.closeRecord], .between)
  | ',' => some ([.comma], .between)
  | ':' => some ([.colon], .between)
  | '"' => some ([], .inString [])
  | c =>
    if c.isDigit || c == '-' then some ([], .inNumber [c])
    else if isWordChar c then some ([], .inWord [c])
    else none

/-- Takes one character: the tokens that are complete, and where the reader stands then. -/
def take? : Place → Char → Option (List Token × Place)
  | .between, c => begin? c
  | .inString pieces, c =>
    if c = '"' then some ([.text (textOf pieces)], .between)
    else if c = '\\' then some ([], .afterBackslash pieces)
    else if c.toNat < 0x20 then none
    else some ([], .inString (.char c :: pieces))
  | .afterBackslash pieces, c =>
    if c = 'u' then some ([], .inEscape pieces 0 0)
    else (escapeOf? c).map fun c => ([], .inString (.char c :: pieces))
  | .inEscape pieces digits value, c =>
    (Text.digitOf? 16 c).map fun d =>
      if digits = 3 then ([], .inString (.escape (value * 16 + d) :: pieces))
      else ([], .inEscape pieces (digits + 1) (value * 16 + d))
  | .inNumber literal, c =>
    if isNumberChar c then some ([], .inNumber (c :: literal))
    else (begin? c).map fun (tokens, place) => (.number literal.reverse :: tokens, place)
  | .inWord letters, c =>
    if isWordChar c then some ([], .inWord (c :: letters))
    else (begin? c).map fun (tokens, place) => (.word letters.reverse :: tokens, place)

/-- The token that is complete where a text ends; none if the text may not end there. -/
def last? : Place → Option (List Token)
  | .between => some []
  | .inNumber literal => some [.number literal.reverse]
  | .inWord letters => some [.word letters.reverse]
  | _ => none

/-- Cuts a text into tokens. -/
def tokens? : Place → List Char → Option (List Token)
  | place, [] => last? place
  | place, c :: r => do
    let (found, place) ← take? place c
    return found ++ (← tokens? place r)

/-! ## Trees -/

/-- Whether a text is a number: a sign or none, digits without a needless zero in front, and perhaps
a fraction and an exponent. -/
def isNumber (literal : List Char) : Bool :=
  let s := if literal.head? == some '-' then literal.drop 1 else literal
  let whole := s.takeWhile Char.isDigit
  let s := s.drop whole.length
  let fraction := if s.head? == some '.' then (s.drop 1).takeWhile Char.isDigit else []
  let fractionFits := s.head? != some '.' || !fraction.isEmpty
  let s := if s.head? == some '.' then s.drop (1 + fraction.length) else s
  let exponentFits :=
    match s with
    | [] => true
    | c :: r =>
      let r := if r.head? == some '+' || r.head? == some '-' then r.drop 1 else r
      (c == 'e' || c == 'E') && !r.isEmpty && r.all Char.isDigit
  (whole == ['0'] || (!whole.isEmpty && whole.head? != some '0')) && fractionFits && exponentFits

/-- A list or record that is not complete, with its parts in reverse. -/
inductive Frame where
  | list (items : List JsonValue)
  | record (entries : List (Option String × JsonValue))
  /-- The value of a name comes next. -/
  | entry (entries : List (Option String × JsonValue)) (name : Option String)

/-- What may come next. -/
inductive Expectation where
  | value
  /-- A value, or the end of the list. -/
  | valueOrEnd
  | name
  /-- A name, or the end of the record. -/
  | nameOrEnd
  | colon
  /-- A comma, or the end of the innermost list or record. -/
  | commaOrEnd
  | nothing
  deriving DecidableEq, Repr

/-- A stack of incomplete lists and records, innermost first, what may come next, and the tree once
it is complete. -/
structure Builder where
  frames : List Frame := []
  expects : Expectation := .value
  tree : Option JsonValue := none

namespace Builder

/-- Puts a complete value where it belongs. -/
def place (b : Builder) (value : JsonValue) : Builder :=
  match b.frames with
  | [] => { frames := [], expects := .nothing, tree := some value }
  | .list items :: r => { b with frames := .list (value :: items) :: r, expects := .commaOrEnd }
  | .entry entries name :: r =>
    { b with frames := .record ((name, value) :: entries) :: r, expects := .commaOrEnd }
  | .record entries :: r => { b with frames := .record entries :: r }

/-- Whether a value may come next. -/
def takesValue (b : Builder) : Bool :=
  b.expects == .value || b.expects == .valueOrEnd

def wordValue? (letters : List Char) : Option JsonValue :=
  if letters == "true".toList then some (.flag true)
  else if letters == "false".toList then some (.flag false)
  else if letters == "null".toList then some .null
  else none

/-- Takes one token, if it may come next. -/
def take? (b : Builder) : Token → Option Builder
  | .openList =>
    if b.takesValue then
      some { b with frames := .list [] :: b.frames, expects := .valueOrEnd }
    else none
  | .openRecord =>
    if b.takesValue then
      some { b with frames := .record [] :: b.frames, expects := .nameOrEnd }
    else none
  | .closeList =>
    match b.frames with
    | .list items :: r =>
      if b.expects == .valueOrEnd || b.expects == .commaOrEnd then
        some ({ b with frames := r }.place (.list items.reverse))
      else none
    | _ => none
  | .closeRecord =>
    match b.frames with
    | .record entries :: r =>
      if b.expects == .nameOrEnd || b.expects == .commaOrEnd then
        some ({ b with frames := r }.place (.record entries.reverse))
      else none
    | _ => none
  | .comma =>
    match b.frames, b.expects with
    | .list _ :: _, .commaOrEnd => some { b with expects := .value }
    | .record _ :: _, .commaOrEnd => some { b with expects := .name }
    | _, _ => none
  | .colon => if b.expects == .colon then some { b with expects := .value } else none
  | .text s =>
    match b.frames, b.expects with
    | .record entries :: r, .name | .record entries :: r, .nameOrEnd =>
      some { b with frames := .entry entries s :: r, expects := .colon }
    | _, _ => if b.takesValue then some (b.place (.text s)) else none
  | .number literal =>
    if b.takesValue && isNumber literal then some (b.place (.number literal)) else none
  | .word letters =>
    if b.takesValue then (wordValue? letters).map b.place else none

/-- The complete tree. -/
def finish? (b : Builder) : Option JsonValue :=
  if b.expects == .nothing then b.tree else none

end Builder

/-- Reads a JSON text. -/
def ofText? (s : String) : Option JsonValue := do
  let tokens ← tokens? .between s.toList
  (← tokens.foldlM Builder.take? {}).finish?

end JsonValue
end PageScript
