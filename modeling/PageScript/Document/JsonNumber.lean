import PageScript.Number.Shortest
import PageScript.Text.Numeral

/-!
# Numbers in JSON documents

What a written number stands for: a natural number or integer of 64 bits where it is written as one,
and otherwise a floating-point number. Of the digits of such a number only those that fit 64 bits
count; they are rounded, and the result is multiplied or divided by a power of ten and rounded
again. A number that becomes infinite stands for nothing.
-/

namespace PageScript.JsonValue

/-- The largest number of digits in a row, read as one number, that count. -/
def digitsEnd : Nat := Nat.pow 2 64

/-- Digits taken together as long as they fit, and how many are left. -/
def takeDigits : Nat → List Char → Nat × List Char
  | n, [] => (n, [])
  | n, c :: r =>
    let m := n * 10 + (c.toNat - '0'.toNat)
    if m < digitsEnd then takeDigits m r else (n, c :: r)

/-- The largest power of ten that is a floating-point number. -/
def largestPower : Nat := 308

/-- Divides by powers of ten until a number is zero or the rest can be divided by in one step. -/
def divideByTens : Nat → Binary → Nat → Binary
  | 0, b, _ => b
  | fuel + 1, b, n =>
    if n ≤ largestPower then b.div (.ofNat (Nat.pow 10 n))
    else if b.isZero then b
    else divideByTens fuel (b.div (.ofNat (Nat.pow 10 largestPower))) (n - largestPower)

/-- A number of digits times a power of ten; none if it is infinite. -/
def scaled? (digits : Nat) (exponent : Int) : Option Binary :=
  let b := Binary.ofNat digits
  match exponent with
  | .ofNat n =>
    if n ≤ largestPower then
      let r := b.mul (.ofNat (Nat.pow 10 n))
      if r.isInfinite then none else some r
    else if b.isZero then some b
    else none
  | .negSucc n => some (divideByTens 8 b (n + 1))

/-- The largest exponent that is read as such. -/
def longestExponent : Nat := Nat.pow 2 31 - 1

/-- Keeps an exponent within 32 bits. -/
def boundExponent (n : Int) : Int :=
  max (-(Nat.pow 2 31 : Int)) (min n longestExponent)

/-- The floating-point number of the parts of a literal. -/
def floatOf? (whole fraction exponent : List Char) : Option Binary :=
  let (n, rest) := takeDigits 0 whole
  let (n, restOfFraction) :=
    takeDigits n fraction
  -- digits of the whole part that do not count still move the point
  let places := Int.ofNat rest.length - Int.ofNat (fraction.length - restOfFraction.length)
  match exponent with
  | [] => scaled? n places
  | exponent =>
    let negative := exponent.head? == some '-'
    let digits := if negative || exponent.head? == some '+' then exponent.drop 1 else exponent
    let e := Text.digitsValue 10 (digits.map fun c => c.toNat - '0'.toNat)
    -- an exponent that does not fit is not computed with
    if longestExponent < e then
      if n ≠ 0 && !negative then none else some (.finite 0 0)
    else scaled? n (boundExponent (if negative then places - e else places + e))

/-- The text of the number that a literal stands for. -/
def numberText? (literal : List Char) : Option String :=
  let negative := literal.head? == some '-'
  let s := if negative then literal.drop 1 else literal
  let whole := s.takeWhile Char.isDigit
  let s := s.drop whole.length
  let fraction := if s.head? == some '.' then (s.drop 1).takeWhile Char.isDigit else []
  let exponent := (s.dropWhile fun c => c != 'e' && c != 'E').drop 1
  let sign := if negative then "-" else ""
  let n := Text.digitsValue 10 (whole.map fun c => c.toNat - '0'.toNat)
  let isWhole := s.isEmpty && n < digitsEnd &&
    (!negative || (n ≠ 0 && n ≤ Nat.pow 2 63))
  if isWhole then some (sign ++ toString n)
  else (floatOf? whole fraction exponent).map fun b => sign ++ b.text

end PageScript.JsonValue
