import PageScript.Text.Numeral

/-!
# Written integers

An integer is written as a sign or none, zeros in front at will, and the digits of its size. Reading
what is written gives back the integer, whatever its size: the readers of numerals in documents and
in flags differ only in the range they ask for.
-/

namespace PageScript.Text

variable {s : List Char} {c : Char}

/-! ## Digits -/

/-- The value of digits is the one that the library gives them. -/
theorem digitsValue_chars (s : List Char) :
    digitsValue 10 (s.map fun c => c.toNat - '0'.toNat) = Nat.ofDigitChars 10 s 0 := by
  rw [digitsValue, List.foldl_map, Nat.ofDigitChars_eq_foldl]

theorem digitOf?_of_isDigit (h : c.isDigit = true) :
    digitOf? 10 c = some (c.toNat - '0'.toNat) := by
  have hlt : c.toNat - '0'.toNat < 10 := by
    have hle : c.toNat ≤ 57 := (Char.isDigit_iff_toNat.1 h).2
    show c.toNat - 48 < 10
    omega
  rw [digitOf?, if_pos h, Option.filter_some, if_pos (by simpa using hlt)]

theorem readDigits?_of_isDigit (hne : s ≠ []) (h : ∀ c ∈ s, c.isDigit = true) :
    readDigits? 10 s = some (Nat.ofDigitChars 10 s 0) := by
  have hdigits : s.mapM (digitOf? 10) = some (s.map fun c => c.toNat - '0'.toNat) := by
    clear hne
    induction s with
    | nil => rfl
    | cons c r ih =>
      rw [List.forall_mem_cons] at h
      rw [List.mapM_cons, digitOf?_of_isDigit h.1, ih h.2]
      rfl
  rw [readDigits?, if_neg (by simpa using hne), hdigits, Option.map_some, digitsValue_chars]

/-- Where there is no sign, an integer is read as its digits are. -/
theorem readInt?_of_isDigit (hne : s ≠ []) (h : ∀ c ∈ s, c.isDigit = true) :
    readInt? 10 s = some (Int.ofNat (Nat.ofDigitChars 10 s 0)) := by
  rw [← Option.map_some, ← readDigits?_of_isDigit hne h]
  cases s with
  | nil => exact absurd rfl hne
  | cons c r =>
    have hplus : c ≠ '+' := by
      intro heq
      exact absurd (h c (.head r)) (by simp [heq])
    have hminus : c ≠ '-' := by
      intro heq
      exact absurd (h c (.head r)) (by simp [heq])
    unfold readInt?
    split
    · next heq => exact absurd (List.cons.inj heq).1 hplus
    · next heq => exact absurd (List.cons.inj heq).1 hminus
    · rfl

/-! ## Numerals -/

/-- The sign of a written integer. -/
inductive Sign where
  | none | plus | minus
  deriving DecidableEq, Repr

/-- An integer in writing: a sign or none, so many zeros in front, and a size. -/
structure Numeral where
  sign : Sign
  zeros : Nat
  size : Nat
  deriving DecidableEq, Repr

namespace Numeral

/-- The digits as they are written. -/
def digits (n : Numeral) : List Char :=
  List.replicate n.zeros '0' ++ Nat.toDigits 10 n.size

/-- What is written. -/
def text (n : Numeral) : String :=
  match n.sign with
  | .none => String.ofList n.digits
  | .plus => String.ofList ('+' :: n.digits)
  | .minus => String.ofList ('-' :: n.digits)

/-- The integer that is meant. -/
def value (n : Numeral) : Int :=
  match n.sign with
  | .none | .plus => n.size
  | .minus => -n.size

theorem isDigit_of_mem_digits {n : Numeral} (h : c ∈ n.digits) : c.isDigit = true := by
  rcases List.mem_append.1 h with h | h
  · rw [List.eq_of_mem_replicate h]
    rfl
  · exact Nat.isDigit_of_mem_toDigits (by decide) (by decide) h

theorem digits_ne_nil (n : Numeral) : n.digits ≠ [] := by
  rw [digits, Ne, List.append_eq_nil_iff]
  exact fun h => absurd h.2 Nat.toDigits_ne_nil

/-- Zeros in front do not matter. -/
theorem ofDigitChars_digits (n : Numeral) : Nat.ofDigitChars 10 n.digits 0 = n.size := by
  rw [digits, Nat.ofDigitChars_append, Nat.ofDigitChars_replicate_zero, Nat.mul_zero,
    Nat.ofDigitChars_ten_toDigits]

/-- **What is written is read back.** -/
theorem readInt?_text (n : Numeral) : readInt? 10 n.text.toList = some n.value := by
  have hdigits : ∀ c ∈ n.digits, c.isDigit = true := fun c => isDigit_of_mem_digits
  have hread := readDigits?_of_isDigit n.digits_ne_nil hdigits
  unfold text value
  cases n.sign with
  | none =>
    rw [String.toList_ofList, readInt?_of_isDigit n.digits_ne_nil hdigits, ofDigitChars_digits]
    rfl
  | plus =>
    rw [String.toList_ofList, readInt?, hread, ofDigitChars_digits]
    rfl
  | minus =>
    rw [String.toList_ofList, readInt?, hread, ofDigitChars_digits]
    rfl

/-- Something of what is written is a digit. -/
theorem exists_isDigit_text (n : Numeral) : ∃ c ∈ n.text.toList, c.isDigit = true := by
  obtain ⟨c, hc⟩ := List.exists_mem_of_ne_nil _ n.digits_ne_nil
  refine ⟨c, ?_, isDigit_of_mem_digits hc⟩
  unfold text
  cases n.sign with
  | none => rwa [String.toList_ofList]
  | _ =>
    rw [String.toList_ofList]
    exact List.mem_cons_of_mem _ hc

end Numeral
end PageScript.Text
