/-!
# Decimal numerals

Reading of written integers: an optional sign, then one or more ASCII digits and nothing else. A
numeral outside the range asked for is not read at all.
-/

namespace PageScript.Text

/-- The value of a list of digits in the given base, most significant first. -/
def digitsValue (base : Nat) (ds : List Nat) : Nat :=
  ds.foldl (fun n d => base * n + d) 0

/-- The value of one digit, if it is a digit of the given base (at most sixteen). -/
def digitOf? (base : Nat) (c : Char) : Option Nat :=
  let d :=
    if c.isDigit then some (c.toNat - '0'.toNat)
    else if 'a' ≤ c ∧ c ≤ 'f' then some (c.toNat - 'a'.toNat + 10)
    else if 'A' ≤ c ∧ c ≤ 'F' then some (c.toNat - 'A'.toNat + 10)
    else none
  d.filter (· < base)

/-- Reads one or more digits of the given base. -/
def readDigits? (base : Nat) (s : List Char) : Option Nat :=
  if s.isEmpty then none
  else (s.mapM (digitOf? base)).map (digitsValue base)

/-- Reads an integer of any size: an optional sign and then digits. -/
def readInt? (base : Nat) : List Char → Option Int
  | '+' :: r => (readDigits? base r).map Int.ofNat
  | '-' :: r => (readDigits? base r).map fun n => -Int.ofNat n
  | s => (readDigits? base s).map Int.ofNat

/-- Reads a natural number: an optional plus sign and then digits. -/
def readNat? (base : Nat) : List Char → Option Nat
  | '+' :: r => readDigits? base r
  | s => readDigits? base s

/-- Reads a natural number below `2 ^ bits`. -/
def readUnsigned? (bits : Nat) (s : String) : Option Nat :=
  (readNat? 10 s.toList).filter (· < Nat.pow 2 bits)

/-- Reads an integer that fits `bits` bits in two's complement. -/
def readSigned? (bits : Nat) (s : String) : Option Int :=
  let half : Int := Nat.pow 2 (bits - 1)
  (readInt? 10 s.toList).filter fun n => -half ≤ n ∧ n < half

end PageScript.Text
