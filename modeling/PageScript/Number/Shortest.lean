import PageScript.Number.Binary

/-!
# Shortest decimal texts

The text of a floating-point number: the fewest decimal digits that are read back as the same
number, of those the nearest, and of two equally near the larger. Digits stand at their places, with
zeros where there are none; there is no exponent and no point after a whole number.
-/

namespace PageScript.Binary

/-- The reals that are read as a number, in quarters of its step: from its lower to its upper end,
the ends included if its mantissa is even. -/
structure Interval where
  lower : Nat
  value : Nat
  upper : Nat
  closed : Bool
  deriving DecidableEq, Repr

/-- The interval of a finite number. -/
def interval (m e : Nat) : Interval where
  -- below a power of two the steps are half as wide
  lower := 4 * m - (if m = Nat.pow 2 (precision - 1) ∧ 0 < e then 1 else 2)
  value := 4 * m
  upper := 4 * m + 2
  closed := m % 2 == 0

/-- Whether the quotient of two numbers of quarters lies in an interval. -/
def Interval.holds (i : Interval) (num den : Nat) : Bool :=
  if i.closed then i.lower * den ≤ num && num ≤ i.upper * den
  else i.lower * den < num && num < i.upper * den

/-- The decimal grid of a power of ten, against quarters of the steps of an exponent: a grid point
is a whole number times the first component over the second. -/
def gridStep (e : Nat) (k : Int) : Nat × Nat :=
  let quarters := Nat.pow 2 (bias + 2)
  match k with
  | .ofNat n => (Nat.pow 10 n * quarters, Nat.pow 2 e)
  | .negSucc n => (quarters, Nat.pow 10 (n + 1) * Nat.pow 2 e)

/-- The grid point nearest to a number among those that are read as it, if there is one. -/
def nearestOnGrid? (m e : Nat) (k : Int) : Option Nat :=
  let i := interval m e
  let (num, den) := gridStep e k
  let below := i.value * den / num
  let above := below + 1
  match i.holds (below * num) den, i.holds (above * num) den with
  | true, true =>
    if i.value * den - below * num < above * num - i.value * den then some below else some above
  | true, false => some below
  | false, true => some above
  | false, false => none

/-- The powers of ten that are tried, the largest first. -/
def gridPowers : List Int :=
  (List.range 660).map fun i => 310 - Int.ofNat i

/-- The fewest digits of a finite number, with the power of ten of the last one. -/
def shortest (m e : Nat) : Nat × Int :=
  if m = 0 then (0, 0)
  else
    -- the coarsest grid with a hit has the fewest digits
    (gridPowers.findSome? fun k => (nearestOnGrid? m e k).map fun d => (d, k)).getD (0, 0)

/-- Digits at their places: with zeros after them, or with a point within or before them. -/
def placed (digits : Nat) (k : Int) : String :=
  let ds := Nat.toDigits 10 digits
  match k with
  | .ofNat n => String.ofList (if digits = 0 then ['0'] else ds ++ List.replicate n '0')
  | .negSucc n =>
    let places := n + 1
    let ds := List.replicate (places + 1 - ds.length) '0' ++ ds
    String.ofList (ds.take (ds.length - places) ++ '.' :: ds.drop (ds.length - places))

/-- The text of a non-negative number. -/
def text : Binary → String
  | .infinite => "inf"
  | .finite m e =>
    let (digits, k) := shortest m e
    placed digits k

end PageScript.Binary
