/-!
# Bytes of text

Reading UTF-8: strictly, or with every ill-formed stretch replaced by the replacement character.
A stretch is the longest piece that could have begun a well-formed character, or else one byte. A
text can also be cut at a number of bytes, if a character ends there.
-/

namespace PageScript.Text

/-- U+FFFD, which stands for an ill-formed stretch. -/
def replacementChar : Char := '\uFFFD'

/-- The number of continuation bytes after a first byte, and the range of the first of them. -/
def leadByte? (b : Nat) : Option (Nat × Nat × Nat) :=
  if b < 0x80 then some (0, 0x80, 0xBF)
  else if b < 0xC2 then none
  else if b < 0xE0 then some (1, 0x80, 0xBF)
  else if b = 0xE0 then some (2, 0xA0, 0xBF)
  else if b = 0xED then some (2, 0x80, 0x9F)
  else if b < 0xF0 then some (2, 0x80, 0xBF)
  else if b = 0xF0 then some (3, 0x90, 0xBF)
  else if b < 0xF4 then some (3, 0x80, 0xBF)
  else if b = 0xF4 then some (3, 0x80, 0x8F)
  else none

/-- The bits of a first byte that belong to the character. -/
def leadBits (b : Nat) : Nat :=
  if b < 0x80 then b else if b < 0xE0 then b % 0x20 else if b < 0xF0 then b % 0x10 else b % 0x08

/-- Where a reader stands inside a character: how many bytes are missing, the range of the next
one, and the bits so far. -/
structure Partial where
  missing : Nat
  low : Nat
  high : Nat
  bits : Nat

/-- Reads bytes as UTF-8, with the replacement character for each ill-formed stretch. -/
def decodeFrom : Option Partial → List UInt8 → List Char
  | none, [] => []
  | some _, [] => [replacementChar]
  | none, b :: r =>
    match leadByte? b.toNat with
    | none => replacementChar :: decodeFrom none r
    | some (0, _, _) => Char.ofNat b.toNat :: decodeFrom none r
    | some (n + 1, low, high) => decodeFrom (some ⟨n + 1, low, high, leadBits b.toNat⟩) r
  | some p, b :: r =>
    let n := b.toNat
    if p.low ≤ n ∧ n ≤ p.high then
      let bits := p.bits * 64 + n % 64
      if p.missing ≤ 1 then Char.ofNat bits :: decodeFrom none r
      else decodeFrom (some ⟨p.missing - 1, 0x80, 0xBF, bits⟩) r
    else
      replacementChar ::
        match leadByte? n with
        | none => replacementChar :: decodeFrom none r
        | some (0, _, _) => Char.ofNat n :: decodeFrom none r
        | some (m + 1, low, high) => decodeFrom (some ⟨m + 1, low, high, leadBits n⟩) r

/-- Reads bytes as UTF-8, ill-formed or not. -/
def decodeAny (bytes : ByteArray) : String :=
  match String.fromUTF8? bytes with
  | some s => s
  | none => String.ofList (decodeFrom none bytes.toList)

/-- What is left of a text after some bytes, unless they end inside a character. -/
def dropBytes? : Nat → List Char → Option (List Char)
  | 0, s => some s
  | _ + 1, [] => none
  | n + 1, c :: r => if c.utf8Size ≤ n + 1 then dropBytes? (n + 1 - c.utf8Size) r else none

/-- The characters that the first bytes of a text are, unless they end inside one. -/
def takeBytes? : Nat → List Char → Option (List Char)
  | 0, _ => some []
  | _ + 1, [] => none
  | n + 1, c :: r =>
    if c.utf8Size ≤ n + 1 then (takeBytes? (n + 1 - c.utf8Size) r).map (c :: ·) else none

end PageScript.Text
