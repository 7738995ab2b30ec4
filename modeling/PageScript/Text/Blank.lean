/-!
# White space

The Unicode property `White_Space`, and trimming by it. Cells of a table, counts written in
attributes and the keys of command-line overrides are trimmed this way.
-/

namespace PageScript.Text

/-- Whether a character has the Unicode property `White_Space`. -/
def isBlank (c : Char) : Bool :=
  let n := c.toNat
  (0x09 ≤ n && n ≤ 0x0D) || n == 0x20 || n == 0x85 || n == 0xA0 || n == 0x1680
    || (0x2000 ≤ n && n ≤ 0x200A) || n == 0x2028 || n == 0x2029 || n == 0x202F
    || n == 0x205F || n == 0x3000

/-- Drops white space from both ends. -/
def trim (s : List Char) : List Char :=
  ((s.dropWhile isBlank).reverse.dropWhile isBlank).reverse

/-- Drops white space from both ends of a string. -/
def trimmed (s : String) : String :=
  String.ofList (trim s.toList)

theorem trim_nil : trim [] = [] := rfl

/-- A text whose two ends are not blank is left alone. -/
theorem trim_eq_self {s : List Char} (hhead : ∀ c, s.head? = some c → isBlank c = false)
    (hlast : ∀ c, s.getLast? = some c → isBlank c = false) : trim s = s := by
  have drop_self : ∀ t : List Char, (∀ c, t.head? = some c → isBlank c = false) →
      t.dropWhile isBlank = t := by
    intro t ht
    cases t with
    | nil => rfl
    | cons c r => simp [List.dropWhile, ht c rfl]
  unfold trim
  rw [drop_self s hhead, drop_self s.reverse (by simpa using hlast), List.reverse_reverse]

end PageScript.Text
