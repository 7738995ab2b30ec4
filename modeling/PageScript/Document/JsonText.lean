import PageScript.Document.Json

/-!
# JSON texts for readers

A JSON tree as a text over several lines: each item and each entry has a line of its own, indented
by two blanks more than what it belongs to; what is empty stays on one line.
-/

namespace PageScript.JsonValue

/-- A digit of a number to the base sixteen. -/
def hexDigit (n : Nat) : Char := Nat.digitChar (n % 16)

/-- A character within quotation marks. -/
def writeChar (c : Char) : List Char :=
  match c with
  | '"' => ['\\', '"']
  | '\\' => ['\\', '\\']
  | '\n' => ['\\', 'n']
  | '\r' => ['\\', 'r']
  | '\t' => ['\\', 't']
  | '\x08' => ['\\', 'b']
  | '\x0c' => ['\\', 'f']
  | c =>
    if c.toNat < 0x20 then ['\\', 'u', '0', '0', hexDigit (c.toNat / 16), hexDigit c.toNat] else [c]

/-- A text within quotation marks. -/
def writeText (s : String) : String :=
  String.ofList ('"' :: s.toList.flatMap writeChar ++ ['"'])

/-- Lines between brackets. -/
def bracketed (opening closing indent : String) (lines : List String) : String :=
  if lines.isEmpty then opening ++ closing
  else
    opening ++ "\n" ++ ",\n".intercalate (lines.map fun l => indent ++ "  " ++ l) ++ "\n" ++ indent
      ++ closing

mutual

/-- A tree as a text whose further lines are indented. -/
def pretty (indent : String) : JsonValue → String
  | .null => "null"
  | .flag b => if b then "true" else "false"
  | .number literal => String.ofList literal
  | .text s => writeText (s.getD "")
  | .list items => bracketed "[" "]" indent (prettyItems (indent ++ "  ") items)
  | .record entries => bracketed "\x7b" "\x7d" indent (prettyEntries (indent ++ "  ") entries)

/-- The texts of items. -/
def prettyItems (indent : String) : List JsonValue → List String
  | [] => []
  | j :: r => j.pretty indent :: prettyItems indent r

/-- The texts of entries. -/
def prettyEntries (indent : String) : List (Option String × JsonValue) → List String
  | [] => []
  | (name, j) :: r =>
    (writeText (name.getD "") ++ ": " ++ j.pretty indent) :: prettyEntries indent r

end

end PageScript.JsonValue
