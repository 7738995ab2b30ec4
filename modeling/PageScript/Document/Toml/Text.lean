import PageScript.Text.Numeral

/-!
# Texts and gaps of TOML documents

Texts stand in quotation marks or apostrophes, on one line or between three of them on several
lines. Only in quotation marks do backslashes count. A line ends with a line feed, which a carriage
return may precede; within texts it counts as a line feed.
-/

namespace PageScript.Toml

def isBlank (c : Char) : Bool := c == ' ' || c == '\t'

/-- Whether a character can stand in a text or a comment within a line. -/
def isPrintable (c : Char) : Bool :=
  c == '\t' || (0x20 ≤ c.toNat && c.toNat ≠ 0x7F)

/-- Passes over blanks. -/
def passBlanks (s : List Char) : List Char := s.dropWhile isBlank

/-- What follows the end of a line, if a line ends here. -/
def passBreak? : List Char → Option (List Char)
  | '\n' :: r => some r
  | '\r' :: '\n' :: r => some r
  | _ => none

/-- Passes over a comment, if there is one. -/
def passComment (s : List Char) : List Char :=
  if s.head? == some '#' then s.dropWhile isPrintable else s

/-- Passes over blanks and a comment, after which the line or the document must end. -/
def passLineEnd? (s : List Char) : Option (List Char) :=
  let s := passComment (passBlanks s)
  if s.isEmpty then some [] else passBreak? s

/-- Passes over blanks, comments and line ends. -/
def passGap : Nat → List Char → List Char
  | 0, s => s
  | fuel + 1, s =>
    let s := passComment (passBlanks s)
    match passBreak? s with
    | some r => passGap fuel r
    | none => s

/-- Passes over blanks and line ends. -/
def passSpace : Nat → List Char → List Char
  | 0, s => s
  | fuel + 1, s =>
    let s := passBlanks s
    match passBreak? s with
    | some r => passSpace fuel r
    | none => s

/-! ## Texts in quotation marks -/

/-- What an escape of one letter stands for. -/
def escapeOf? : Char → Option Char
  | 'b' => some '\x08'
  | 't' => some '\t'
  | 'n' => some '\n'
  | 'f' => some '\x0c'
  | 'r' => some '\r'
  | '"' => some '"'
  | '\\' => some '\\'
  | _ => none

/-- The character of some hexadecimal digits. -/
def hexChar? (count : Nat) (s : List Char) : Option Char := do
  if s.length < count then none
  let n ← Text.readDigits? 16 (s.take count)
  if (0xD800 ≤ n && n < 0xE000) || 0x110000 ≤ n then none
  return Char.ofNat n

/-- Reads an escape after its backslash. -/
def readEscape? : List Char → Option (Char × List Char)
  | 'u' :: r => (hexChar? 4 r).map fun c => (c, r.drop 4)
  | 'U' :: r => (hexChar? 8 r).map fun c => (c, r.drop 8)
  | c :: r => (escapeOf? c).map fun c => (c, r)
  | [] => none

/-- Reads a text of one line after its quotation mark. -/
def readQuoted? : Nat → List Char → List Char → Option (List Char × List Char)
  | 0, _, _ => none
  | fuel + 1, soFar, s =>
    match s with
    | '"' :: r => some (soFar, r)
    | '\\' :: r =>
      match readEscape? r with
      | some (c, r) => readQuoted? fuel (soFar ++ [c]) r
      | none => none
    | c :: r => if isPrintable c then readQuoted? fuel (soFar ++ [c]) r else none
    | [] => none

/-- So many marks in a row do not end a text of several lines, though three of them do. -/
def marksEnd : Nat := 2

/-- Ends a text of several lines at a row of three marks or more, of which up to two that come first
belong to the text. -/
def endLong (mark : Char) (row : Nat) (soFar s : List Char) : List Char × List Char :=
  let inside := min (row - 3) marksEnd
  (soFar ++ List.replicate inside mark, s.drop (inside + 3))

/-- Reads a text of several lines after its quotation marks. -/
def readLongQuoted? : Nat → List Char → List Char → Option (List Char × List Char)
  | 0, _, _ => none
  | fuel + 1, soFar, s =>
    let row := (s.takeWhile (· == '"')).length
    if 3 ≤ row then some (endLong '"' row soFar s)
    else
      match passBreak? s, s with
      | some r, _ => readLongQuoted? fuel (soFar ++ ['\n']) r
      | none, '\\' :: r =>
        match passBreak? (passBlanks r) with
        | some rest => readLongQuoted? fuel soFar (passSpace (rest.length + 1) rest)
        | none =>
          match readEscape? r with
          | some (c, r) => readLongQuoted? fuel (soFar ++ [c]) r
          | none => none
      | none, c :: r => if isPrintable c then readLongQuoted? fuel (soFar ++ [c]) r else none
      | none, [] => none

/-! ## Texts in apostrophes -/

/-- Reads a text of one line after its apostrophe. -/
def readLiteral? (s : List Char) : Option (List Char × List Char) :=
  let soFar := s.takeWhile fun c => isPrintable c && c != '\''
  match s.drop soFar.length with
  | '\'' :: r => some (soFar, r)
  | _ => none

/-- Reads a text of several lines after its apostrophes. -/
def readLongLiteral? : Nat → List Char → List Char → Option (List Char × List Char)
  | 0, _, _ => none
  | fuel + 1, soFar, s =>
    let row := (s.takeWhile (· == '\'')).length
    if 3 ≤ row then some (endLong '\'' row soFar s)
    else
      match passBreak? s, s with
      | some r, _ => readLongLiteral? fuel (soFar ++ ['\n']) r
      | none, c :: r => if isPrintable c then readLongLiteral? fuel (soFar ++ [c]) r else none
      | none, [] => none

/-- What follows the end of a line right after the marks of a text of several lines. -/
def passFirstBreak (s : List Char) : List Char := (passBreak? s).getD s

/-- Reads a text of one line or, where that is allowed, of several lines. -/
def readText? (long : Bool) (s : List Char) : Option (List Char × List Char) :=
  let fuel := s.length + 1
  match s with
  | '"' :: '"' :: '"' :: r =>
    if long then readLongQuoted? fuel [] (passFirstBreak r) else none
  | '\'' :: '\'' :: '\'' :: r =>
    if long then readLongLiteral? fuel [] (passFirstBreak r) else none
  | '"' :: r => readQuoted? fuel [] r
  | '\'' :: r => readLiteral? r
  | _ => none

end PageScript.Toml
