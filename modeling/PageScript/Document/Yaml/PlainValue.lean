import PageScript.Document.Yaml.Tag
import PageScript.Number.Shortest
import PageScript.Text.Numeral

/-!
# What plain scalars stand for

A plain scalar can be nothing, a flag, an integer, a floating-point number, or else a text. Integers
are decimal without leading zeros, or follow one of three marks for another base. An integer that
fits neither 64 bits nor, with its sign, 63 is refused, up to twice as many bits; larger ones are
taken for floating-point numbers.
-/

namespace PageScript.Yaml

/-- Whether a text is one for nothing. -/
def isNull (s : String) : Bool :=
  s == "null" || s == "Null" || s == "NULL" || s == "~"

/-- The flag that a text stands for. -/
def flagOf? (s : String) : Option Bool :=
  if s == "true" || s == "True" || s == "TRUE" then some true
  else if s == "false" || s == "False" || s == "FALSE" then some false
  else none

/-- A text without a sign before it. -/
def dropSign : List Char → List Char
  | '+' :: r => r
  | '-' :: r => r
  | s => s

/-- A text without a plus before it. -/
def dropPlus : List Char → List Char
  | '+' :: r => r
  | s => s

/-- Whether a text starts with a sign. -/
def isSigned (s : List Char) : Bool :=
  s.head? == some '+' || s.head? == some '-'

/-- Whether a text consists of digits and has leading zeros, so that it is no number. -/
def hasLeadingZeros (s : List Char) : Bool :=
  let s := dropSign s
  1 < s.length && s.head? == some '0' && s.all Char.isDigit

/-- The digits of a whole number, after a mark for its base. -/
def markedDigits? : List Char → Option Nat
  | '0' :: 'x' :: r => Text.readDigits? 16 r
  | '0' :: 'o' :: r => Text.readDigits? 8 r
  | '0' :: 'b' :: r => Text.readDigits? 2 r
  | _ => none

/-- The whole number that a text stands for. -/
def wholeOf? (s : List Char) : Option Int :=
  let plain := if hasLeadingZeros s then none else Text.readDigits? 10 (dropSign s)
  match s with
  | '-' :: r => ((markedDigits? r).or plain).map fun n => -Int.ofNat n
  | s => ((markedDigits? (dropPlus s)).or plain).map Int.ofNat

/-- Whether an integer is one of 64 bits. -/
def isShort (n : Int) : Bool := -(Nat.pow 2 63 : Int) ≤ n && n < (Nat.pow 2 64 : Int)

/-- Whether an integer is one of 128 bits. -/
def isLong (n : Int) : Bool := -(Nat.pow 2 127 : Int) ≤ n && n < (Nat.pow 2 128 : Int)

/-- The exponent after a letter, if a text is one. -/
def exponentOf? : List Char → Option Int
  | [] => some 0
  | c :: r => if c == 'e' || c == 'E' then Text.readInt? 10 r else none

/-- The number that decimal digits with a point and an exponent stand for. -/
def decimalOf? (s : List Char) : Option Binary := do
  let whole := s.takeWhile Char.isDigit
  let rest := s.dropWhile Char.isDigit
  let fraction := if rest.head? == some '.' then (rest.drop 1).takeWhile Char.isDigit else []
  let rest := if rest.head? == some '.' then (rest.drop 1).dropWhile Char.isDigit else rest
  let digits ← Text.readDigits? 10 (whole ++ fraction)
  let exponent ← exponentOf? rest
  return Binary.ofDecimal digits (exponent - fraction.length)

/-- The text of the floating-point number that a text stands for. -/
def floatText? (s : List Char) : Option String :=
  let t := dropPlus s
  let name := String.ofList s
  let unsigned := String.ofList t
  if t.length < s.length && isSigned t then none
  else if unsigned == ".inf" || unsigned == ".Inf" || unsigned == ".INF" then some "inf"
  else if name == "-.inf" || name == "-.Inf" || name == "-.INF" then some "-inf"
  else if name == ".nan" || name == ".NaN" || name == ".NAN" then some "NaN"
  else do
    let b ← decimalOf? (dropSign s)
    if b.isInfinite then none
    return (if s.head? == some '-' then "-" else "") ++ b.text

/-- The text of an integer, if it is one of 64 bits. -/
def integerText? (n : Int) : Option String :=
  if isShort n then some (toString n) else none

/-- The text of what a plain scalar stands for; nothing and a large integer have none. -/
def plainText? (s : String) : Option String :=
  if s.isEmpty || isNull s then none
  else
    match flagOf? s with
    | some b => some (if b then "true" else "false")
    | none =>
      match (wholeOf? s.toList).filter isLong with
      | some n => integerText? n
      | none =>
        if hasLeadingZeros s.toList then some s else some ((floatText? s.toList).getD s)

/-- The text of what a scalar stands for that is tagged; a tag of an application's own has none. -/
def taggedText? (t : Tag) (plain : Bool) (s : String) : Option String :=
  if t.isLocal then none
  else if t == Tag.standard "bool" then (flagOf? s).map fun b => if b then "true" else "false"
  else if t == Tag.standard "int" then (wholeOf? s.toList).bind integerText?
  else if t == Tag.standard "float" then floatText? s.toList
  else if t == Tag.standard "null" then none
  else if t.head? == some '!'.toUInt8 && plain then plainText? s
  else some s

end PageScript.Yaml
