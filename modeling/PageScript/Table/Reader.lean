import PageScript.Table.Basic

/-!
# Reading records character by character

What the reader of records does at each character, as one equation for each kind of character.
Inside quotes only a quote counts. Outside them a quote, a comma and a line feed count, and a
carriage return that stands before a line feed is passed by. The end of a text ends a record like a
line feed does: where no record has been begun, there is none to be ended.
-/

namespace PageScript.Table

variable {p : Cursor} {c : Char} {r : List Char}

namespace Cursor

@[simp] theorem quoted_take (p : Cursor) (c : Char) : (p.take c).quoted = p.quoted := rfl

@[simp] theorem quoted_endCell (p : Cursor) : p.endCell.quoted = p.quoted := rfl

/-- The cells of the record so far, with the present one. -/
def fields (p : Cursor) : List Cell :=
  p.endCell.cells.reverse

theorem fields_eq (p : Cursor) : p.fields = p.cells.reverse ++ [p.cell.reverse] := by
  simp [fields, endCell]

theorem fields_endCell (p : Cursor) : p.endCell.fields = p.fields ++ [[]] := by
  simp [fields_eq, endCell]

theorem record?_eq (p : Cursor) : p.record? =
    if p.sawQuote = false ∧ p.fields.map Text.trim = [[]] then none
    else some (p.fields.map Text.trim) := by
  have hrecord : p.record? = if !p.sawQuote && p.fields.map Text.trim == [[]] then none
      else some (p.fields.map Text.trim) := rfl
  rw [hrecord]
  simp only [Bool.and_eq_true, Bool.not_eq_true', beq_iff_eq]

/-- A record that has not been begun is blank. -/
theorem record?_of_not_begun (h : p.isBegun = false) : p.record? = none := by
  obtain ⟨cells, cell, quoted, sawQuote⟩ := p
  simp only [isBegun, Bool.or_eq_false_iff, Bool.not_eq_false', List.isEmpty_iff] at h
  obtain ⟨⟨rfl, rfl⟩, rfl⟩ := h
  rfl

end Cursor

@[simp] theorem recordsFrom_nil (p : Cursor) : recordsFrom p [] = p.record?.toList := by
  rw [recordsFrom]
  split
  · rfl
  · rename_i h
    rw [Cursor.record?_of_not_begun (Bool.eq_false_iff.2 h)]
    rfl

/-! ## Inside quotes -/

theorem recordsFrom_inside (hq : p.quoted = true) (hc : c ≠ '"') :
    recordsFrom p (c :: r) = recordsFrom (p.take c) r := by
  rw [recordsFrom, if_pos hq]
  exact hc

theorem recordsFrom_doubled (hq : p.quoted = true) :
    recordsFrom p ('"' :: '"' :: r) = recordsFrom (p.take '"') r := by
  rw [recordsFrom, if_pos hq]

theorem recordsFrom_closing (hq : p.quoted = true) (hr : r.head? ≠ some '"') :
    recordsFrom p ('"' :: r) = recordsFrom p.turnQuote r := by
  rw [recordsFrom, if_pos hq]
  rintro r rfl
  exact hr rfl

/-! ## Outside quotes -/

section Outside

variable (hq : p.quoted = false)

include hq

theorem recordsFrom_opening : recordsFrom p ('"' :: r) = recordsFrom p.turnQuote r := by
  rw [recordsFrom.eq_def]
  simp [hq]

theorem recordsFrom_comma : recordsFrom p (',' :: r) = recordsFrom p.endCell r := by
  rw [recordsFrom, if_neg (Bool.eq_false_iff.1 hq), if_pos rfl]
  exact by decide

theorem recordsFrom_lineFeed :
    recordsFrom p ('\n' :: r) = p.record?.toList ++ recordsFrom p.nextRecord r := by
  rw [recordsFrom, if_neg (Bool.eq_false_iff.1 hq), if_neg (by decide),
    if_neg fun h => absurd h.1 (by decide), if_pos rfl]
  exact by decide

theorem recordsFrom_return (hr : r.head? = some '\n') :
    recordsFrom p ('\r' :: r) = recordsFrom p r := by
  rw [recordsFrom, if_neg (Bool.eq_false_iff.1 hq), if_neg (by decide), if_pos ⟨rfl, hr⟩]
  exact by decide

theorem recordsFrom_outside (hquote : c ≠ '"') (hcomma : c ≠ ',') (hfeed : c ≠ '\n')
    (hreturn : ¬ (c = '\r' ∧ r.head? = some '\n')) :
    recordsFrom p (c :: r) = recordsFrom (p.take c) r := by
  rw [recordsFrom, if_neg (Bool.eq_false_iff.1 hq), if_neg hcomma, if_neg hreturn, if_neg hfeed]
  exact hquote

end Outside

end PageScript.Table
