/-!
# Binary floating-point numbers

Non-negative numbers of 53 binary places, kept exactly as a whole number times a power of two. A
quotient is rounded to the nearest of them, halves to the even neighbour; what is too large becomes
infinite.
-/

namespace PageScript

/-- A non-negative floating-point number: `mantissa` times two to the power `exponent - 1074`, or
infinity. -/
inductive Binary where
  | finite (mantissa exponent : Nat)
  | infinite
  deriving DecidableEq, Repr

namespace Binary

/-- The number of binary places. -/
def precision : Nat := 53

/-- How far below one the smallest steps are, in powers of two. -/
def bias : Nat := 1074

/-- The first exponent that is too large. -/
def exponentEnd : Nat := 2046

/-- The nearest whole number to a quotient, the even one of two that are equally near. -/
def roundDiv (num den : Nat) : Nat :=
  let q := num / den
  let r := num % den
  if 2 * r < den then q
  else if den < 2 * r then q + 1
  else if q % 2 = 0 then q else q + 1

/-- The exponent at which a quotient has just as many binary places as there are, or the least
exponent. -/
def exponentOf (num den : Nat) : Nat :=
  let scaled := num * Nat.pow 2 bias
  let size := scaled.log2 - den.log2
  -- the logarithms may be off by one, so the guess is corrected upwards
  let guess := size - precision
  if den * Nat.pow 2 (guess + precision) ≤ scaled then guess + 1 else guess

/-- The number nearest to a quotient. -/
def ofRatio (num den : Nat) : Binary :=
  let e := exponentOf num den
  let m := roundDiv (num * Nat.pow 2 bias) (den * Nat.pow 2 e)
  -- rounding may add a place
  let (m, e) := if m = Nat.pow 2 precision then (Nat.pow 2 (precision - 1), e + 1) else (m, e)
  if exponentEnd ≤ e then .infinite else .finite m e

/-- Whether a number is zero. -/
def isZero : Binary → Bool
  | .finite m _ => m == 0
  | .infinite => false

/-- Whether a number is infinite. -/
def isInfinite : Binary → Bool
  | .finite .. => false
  | .infinite => true

/-- The nearest number to a whole number. -/
def ofNat (n : Nat) : Binary := ofRatio n 1

/-- The nearest number to a product. -/
def mul : Binary → Binary → Binary
  | .finite m e, .finite n f => ofRatio (m * n * Nat.pow 2 (e + f)) (Nat.pow 2 (2 * bias))
  | _, _ => .infinite

/-- The nearest number to a quotient by a number that is finite and not zero. -/
def div : Binary → Binary → Binary
  | .finite m e, .finite n f => ofRatio (m * Nat.pow 2 e) (n * Nat.pow 2 f)
  | .finite _ _, .infinite => .finite 0 0
  | .infinite, _ => .infinite

/-- The nearest number to `digits` times ten to the power `exponent`. -/
def ofDecimal (digits : Nat) (exponent : Int) : Binary :=
  if digits = 0 then .finite 0 0
  else
    let size := (Nat.toDigits 10 digits).length
    if exponent + size > 400 then .infinite
    else if exponent + size < -400 then .finite 0 0
    else
      match exponent with
      | .ofNat n => ofRatio (digits * Nat.pow 10 n) 1
      | .negSucc n => ofRatio digits (Nat.pow 10 (n + 1))

end Binary
end PageScript
