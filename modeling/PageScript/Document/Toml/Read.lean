import PageScript.Document.Toml.Number
import PageScript.Document.Toml.Text
import PageScript.Document.Toml.Value

/-!
# Reading TOML documents

A document is read line by line: a line gives a value to a key or is the header of a table, and both
may be followed by a comment. Lists may go over several lines, tables within braces may not. Lists
and tables within each other, and keys of several names, are limited in depth.
-/

namespace PageScript.Toml

/-- Whether a character can stand in a name without quotes. -/
def isNameChar (c : Char) : Bool := c.isAlphanum || c == '-' || c == '_'

/-- Whether a character can stand in a number, a moment or a word. -/
def isWordChar (c : Char) : Bool := isNameChar c || c == '+' || c == '.' || c == ':'

/-- How deep lists, tables and keys may be, and one more. -/
def depthEnd : Nat := 80

/-! ## Keys -/

/-- Reads one name of a key. -/
def readName? (s : List Char) : Option (String × List Char) :=
  match s with
  | '"' :: _ | '\'' :: _ => (readText? false s).map fun (t, r) => (String.ofList t, r)
  | s =>
    let name := s.takeWhile isNameChar
    if name.isEmpty then none else some (String.ofList name, s.drop name.length)

/-- Reads the names of a key with points between them; passes over blanks around each. -/
def readNames? : Nat → List Char → Option (List String × List Char)
  | 0, _ => none
  | fuel + 1, s => do
    let (name, r) ← readName? (passBlanks s)
    match passBlanks r with
    | '.' :: r =>
      let (names, r) ← readNames? fuel r
      return (name :: names, r)
    | r => return ([name], r)

/-- A key: the names before the last, and the last. -/
structure Key where
  path : List String
  name : String
  deriving Repr

def readKey? (s : List Char) : Option (Key × List Char) := do
  let (names, r) ← readNames? depthEnd s
  if depthEnd ≤ names.length then none
  return (⟨names.dropLast, ← names.getLast?⟩, r)

/-! ## Values -/

def wordValue? (word : List Char) : Option Toml :=
  if word == "true".toList then some (.flag true)
  else if word == "false".toList then some (.flag false)
  else if isFloat word then some (.float (String.ofList word))
  else (integerOf? word).map .integer

/-- Reads a number, a moment or a word. -/
def readWord? (s : List Char) : Option (Toml × List Char) :=
  match readMoment? s with
  | some (m, r) => some (.moment (String.ofList m), r)
  | none =>
    let word := s.takeWhile isWordChar
    (wordValue? word).map fun v => (v, s.drop word.length)

mutual

def readValue? : Nat → (room : Nat) → List Char → Option (Toml × List Char)
  | 0, _, _ => none
  | fuel + 1, room, s =>
    match s with
    | '"' :: _ | '\'' :: _ =>
      (readText? true s).map fun (t, r) => (.text (String.ofList t), r)
    | '[' :: r =>
      if room ≤ 1 then none
      else (readItems? fuel (room - 1) r).map fun (items, r) => (.list items, r)
    | '\x7b' :: r =>
      if room ≤ 1 then none
      else
        match passBlanks r with
        | '\x7d' :: r => some (.table .braced [], r)
        | r => readEntries? fuel (room - 1) (.table .braced []) r
    | s => readWord? s

def readItems? : Nat → (room : Nat) → List Char → Option (List Toml × List Char)
  | 0, _, _ => none
  | fuel + 1, room, s =>
    match passGap (s.length + 1) s with
    | ']' :: r => some ([], r)
    | s => do
      let (item, r) ← readValue? fuel room s
      match passGap (r.length + 1) r with
      | ',' :: r =>
        let (items, r) ← readItems? fuel room r
        return (item :: items, r)
      | ']' :: r => return ([item], r)
      | _ => none

/-- Reads the entries of a table in braces. -/
def readEntries? : Nat → (room : Nat) → Toml → List Char → Option (Toml × List Char)
  | 0, _, _, _ => none
  | fuel + 1, room, t, s => do
    let (key, r) ← readKey? s
    let (value, r) ← readValue? fuel room (passBlanks (← passChar? '=' r))
    let t ← putKey key.path key.name value t
    match passBlanks r with
    | ',' :: r => readEntries? fuel room t r
    | '\x7d' :: r => return (t, r)
    | _ => none

end

/-! ## Lines -/

/-- A document as far as it has been read, and the header that the next keys belong to. -/
structure Draft where
  root : Toml := .table .header []
  header : List String := []

/-- Reads the header of a table after its first bracket. -/
def readHeader? (d : Draft) (s : List Char) : Option (Draft × List Char) :=
  match s with
  | '[' :: r => do
    let (key, r) ← readKey? r
    let r ← passChar? ']' (← passChar? ']' r)
    return (⟨← addTable key.path key.name d.root, key.path ++ [key.name]⟩, ← passLineEnd? r)
  | r => do
    let (key, r) ← readKey? r
    let r ← passChar? ']' r
    return (⟨← openTable key.path key.name d.root, key.path ++ [key.name]⟩, ← passLineEnd? r)

def readKeyValue? (d : Draft) (s : List Char) : Option (Draft × List Char) := do
  let (key, r) ← readKey? s
  let r ← passChar? '=' r
  let (value, r) ← readValue? (2 * r.length + 2) depthEnd (passBlanks r)
  return ({ d with root := ← putBelow d.header key.path key.name value d.root }, ← passLineEnd? r)

/-- Reads lines to the end of a document. -/
def readLines? : Nat → Draft → List Char → Option Toml
  | 0, _, _ => none
  | fuel + 1, d, s =>
    match passGap (s.length + 1) s with
    | [] => some d.root
    | '[' :: r => (readHeader? d r).bind fun (d, r) => readLines? fuel d r
    | s => (readKeyValue? d s).bind fun (d, r) => readLines? fuel d r

/-- The table that a text is as a document. -/
def ofText? (text : String) : Option Toml :=
  let s := text.toList
  -- a byte order mark may stand at the start
  let s := if s.head?.any fun c => c.toNat == 0xFEFF then s.drop 1 else s
  readLines? (s.length + 1) {} s

end PageScript.Toml
