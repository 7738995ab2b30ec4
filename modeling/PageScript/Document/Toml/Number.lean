import PageScript.Number.Binary
import PageScript.Text.Numeral
import PageScript.Text.Search

/-!
# Numbers and moments of TOML documents

Integers of 64 bits, floating-point numbers, dates and times. Underscores may stand between digits.
-/

namespace PageScript.Toml

/-- Digits without the underscores between them. -/
def bareDigits? (s : List Char) : Option (List Char) :=
  let parts := Text.cutAt '_' s
  if parts.any List.isEmpty then none else some parts.flatten

/-- Reads digits of a base with underscores between them. -/
def readWhole? (base : Nat) (s : List Char) : Option Nat := do
  Text.readDigits? base (← bareDigits? s)

/-- Reads decimal digits without leading zeros. -/
def readDecimal? (s : List Char) : Option Nat :=
  if s.head? == some '0' && s != ['0'] then none else readWhole? 10 s

/-- What follows a sign, and whether that was a minus. -/
def passSign : List Char → Bool × List Char
  | '-' :: r => (true, r)
  | '+' :: r => (false, r)
  | s => (false, s)

/-- The end of natural numbers that are integers of 64 bits. -/
def integerEnd : Nat := Nat.pow 2 63

/-- The integer that a text is. -/
def integerOf? (s : List Char) : Option Int :=
  let natural := fun (n : Option Nat) => (n.filter (· < integerEnd)).map Int.ofNat
  match s with
  | '0' :: 'x' :: r => natural (readWhole? 16 r)
  | '0' :: 'o' :: r => natural (readWhole? 8 r)
  | '0' :: 'b' :: r => natural (readWhole? 2 r)
  | s =>
    match passSign s with
    | (true, r) => ((readDecimal? r).filter (· ≤ integerEnd)).map fun n => -Int.ofNat n
    | (false, r) => natural (readDecimal? r)

/-- The exponent after a letter. -/
def exponentOf? : List Char → Option Int
  | c :: r =>
    if c == 'e' || c == 'E' then
      let (negative, digits) := passSign r
      (readWhole? 10 digits).map fun n => if negative then -Int.ofNat n else Int.ofNat n
    else none
  | [] => none

/-- Whether a text is a floating-point number; one that is too large and has no minus is not. -/
def isFloat (s : List Char) : Bool :=
  let (negative, t) := passSign s
  if t == "inf".toList || t == "nan".toList then true
  else
    let isPart := fun (c : Char) => c.isDigit || c == '_'
    let whole := t.takeWhile isPart
    let t := t.drop whole.length
    let fraction := if t.head? == some '.' then some ((t.drop 1).takeWhile isPart) else none
    let t := match fraction with
      | some f => t.drop (f.length + 1)
      | none => t
    let exponent := if t.isEmpty && fraction.isSome then some 0 else exponentOf? t
    match readDecimal? whole, bareDigits? (fraction.getD ['0']), exponent with
    | some n, some places, some e =>
      let digits := n * Nat.pow 10 places.length + (Text.readDigits? 10 places).getD 0
      negative || !(Binary.ofDecimal digits (e - places.length)).isInfinite
    | _, _, _ => false

/-! ## Moments -/

/-- Reads just so many digits, of a number within bounds: the digits and the rest. -/
def readField? (count low high : Nat) (s : List Char) : Option (List Char × List Char) := do
  let digits := s.take count
  if digits.length < count then none
  let n ← Text.readDigits? 10 digits
  if n < low || high < n then none
  return (digits, s.drop count)

/-- Passes over a certain character. -/
def passChar? (c : Char) : List Char → Option (List Char)
  | d :: r => if d = c then some r else none
  | [] => none

/-- The number of days of a month. -/
def daysOf (year month : Nat) : Nat :=
  if month = 2 then
    if year % 4 = 0 ∧ (year % 100 ≠ 0 ∨ year % 400 = 0) then 29 else 28
  else if month = 4 ∨ month = 6 ∨ month = 9 ∨ month = 11 then 30
  else 31

def readDate? (s : List Char) : Option (List Char × List Char) := do
  let (year, r) ← readField? 4 0 9999 s
  let (month, r) ← readField? 2 1 12 (← passChar? '-' r)
  let most := daysOf (← Text.readDigits? 10 year) (← Text.readDigits? 10 month)
  let (day, r) ← readField? 2 1 most (← passChar? '-' r)
  return (year ++ '-' :: month ++ '-' :: day, r)

/-- The digits of a fraction of a second that count: nine at most, without zeros at the end. -/
def usualFraction (digits : List Char) : List Char :=
  let kept := ((digits.take 9).reverse.dropWhile (· == '0')).reverse
  if kept.isEmpty then [] else '.' :: kept

/-- Reads a time of a day. -/
def readTime? (s : List Char) : Option (List Char × List Char) := do
  let (hour, r) ← readField? 2 0 23 s
  let (minute, r) ← readField? 2 0 59 (← passChar? ':' r)
  let (second, r) ← readField? 2 0 60 (← passChar? ':' r)
  let time := hour ++ ':' :: minute ++ ':' :: second
  match r with
  | '.' :: r =>
    let digits := r.takeWhile Char.isDigit
    if digits.isEmpty then none
    return (time ++ usualFraction digits, r.drop digits.length)
  | r => return (time, r)

/-- Reads how far a time is from that of the prime meridian, if that is said. -/
def readOffset? (s : List Char) : Option (List Char × List Char) :=
  match s with
  | 'Z' :: r => some (['Z'], r)
  | 'z' :: r => some (['Z'], r)
  | sign :: r =>
    if sign == '+' || sign == '-' then do
      let (hour, r) ← readField? 2 0 23 r
      let (minute, r) ← readField? 2 0 59 (← passChar? ':' r)
      let isZero := hour ++ minute == "0000".toList
      return ((if isZero then '+' else sign) :: hour ++ ':' :: minute, r)
    else some ([], s)
  | [] => some ([], [])

/-- Reads a date with a time after it, a date, or a time, in its usual form. -/
def readMoment? (s : List Char) : Option (List Char × List Char) :=
  match readDate? s with
  | some (date, r) =>
    match r with
    | c :: t =>
      if c == 'T' || c == 't' || c == ' ' then
        match readTime? t with
        | some (time, t) =>
          (readOffset? t).map fun (offset, t) => (date ++ 'T' :: time ++ offset, t)
        | none => some (date, r)
      else some (date, r)
    | [] => some (date, r)
  | none => readTime? s

end PageScript.Toml
