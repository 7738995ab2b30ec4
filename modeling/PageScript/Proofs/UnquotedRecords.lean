import Mathlib.Data.List.TakeWhile
import PageScript.Table.Plain
import PageScript.Table.Reader

/-!
# Records of a text without quotes

Where a text has no double quotes, to read its records is to cut it twice: into lines, of which the
blank ones are dropped, and each line at its commas. The reader of records does this in one go and
keeps the cells of the line it is in; `Cursor.Reads` says which these are. So the records from
where it stands are those of the whole text from the beginning of the line.

Carriage returns are where the two differ: the reader passes some by, while cutting leaves them in
their cell. But they are white space, and as long as there is nothing but white space between one of
them and an end of its cell, trimming drops it.
-/

namespace PageScript

namespace Text

variable {sep c : Char} {s gap : List Char}

/-! ## Cutting -/

theorem cutAt_cons_self (sep : Char) (s : List Char) :
    cutAt sep (sep :: s) = [] :: cutAt sep s := by
  rw [cutAt, if_pos rfl]

theorem cutAt_cons_of_ne (h : c ≠ sep) (s : List Char) :
    cutAt sep (c :: s) = (cutAt sep s).modifyHead (c :: ·) := by
  rw [cutAt, if_neg h]
  split
  · rename_i hnil
    exact absurd hnil (cutAt_ne_nil sep s)
  · rename_i heq
    rw [heq]
    rfl

theorem cutAt_of_not_mem (h : sep ∉ s) : cutAt sep s = [s] := by
  induction s with
  | nil => rfl
  | cons c s ih =>
    obtain ⟨hne, hs⟩ := List.ne_and_not_mem_of_not_mem_cons h
    rw [cutAt_cons_of_ne hne.symm, ih hs]
    rfl

theorem exists_cutAt (sep : Char) (s : List Char) : ∃ init piece, cutAt sep s = init ++ [piece] :=
  ⟨_, _, (List.dropLast_concat_getLast (cutAt_ne_nil sep s)).symm⟩

/-- The piece that a text ends in goes on with the first piece of what comes after it. -/
theorem cutAt_append {init : List (List Char)} {piece : List Char}
    (h : cutAt sep s = init ++ [piece]) (s' : List Char) :
    cutAt sep (s ++ s') = init ++ (cutAt sep s').modifyHead (piece ++ ·) := by
  induction s generalizing init piece with
  | nil =>
    replace h : [] ++ [[]] = init ++ [piece] := h
    obtain ⟨rfl, heq⟩ := List.append_inj' h rfl
    cases heq
    rw [List.nil_append, List.nil_append]
    cases cutAt sep s' <;> rfl
  | cons c s ih =>
    obtain ⟨init', piece', hs⟩ := exists_cutAt sep s
    by_cases hc : c = sep
    · subst hc
      rw [cutAt_cons_self, hs, ← List.cons_append] at h
      obtain ⟨rfl, heq⟩ := List.append_inj' h rfl
      cases heq
      rw [List.cons_append, cutAt_cons_self, ih hs, List.cons_append]
    · rw [cutAt_cons_of_ne hc, hs] at h
      rw [List.cons_append, cutAt_cons_of_ne hc, ih hs]
      -- the first piece of all is the one that the character is added to
      cases init' with
      | nil =>
        replace h : [] ++ [c :: piece'] = init ++ [piece] := h
        obtain ⟨rfl, heq⟩ := List.append_inj' h rfl
        cases heq
        cases cutAt sep s' <;> rfl
      | cons first init' =>
        replace h : ((c :: first) :: init') ++ [piece'] = init ++ [piece] := h
        obtain ⟨rfl, heq⟩ := List.append_inj' h rfl
        cases heq
        rfl

theorem cutAt_concat {init : List (List Char)} {piece : List Char}
    (h : cutAt sep s = init ++ [piece]) (hc : c ≠ sep) :
    cutAt sep (s ++ [c]) = init ++ [piece ++ [c]] := by
  rw [cutAt_append h, cutAt_cons_of_ne hc]
  rfl

theorem cutAt_concat_self (sep : Char) (s : List Char) :
    cutAt sep (s ++ [sep]) = cutAt sep s ++ [[]] := by
  obtain ⟨init, piece, hs⟩ := exists_cutAt sep s
  rw [cutAt_append hs, cutAt_cons_self, hs]
  simp [cutAt]

theorem exists_cutAt_eq_cons (sep : Char) (s : List Char) :
    ∃ rest, cutAt sep s = s.takeWhile (· ≠ sep) :: rest := by
  induction s with
  | nil => exact ⟨[], rfl⟩
  | cons c s ih =>
    by_cases hc : c = sep
    · subst hc
      exact ⟨cutAt c s, by rw [cutAt_cons_self]; simp⟩
    · obtain ⟨rest, heq⟩ := ih
      exact ⟨rest, by rw [cutAt_cons_of_ne hc, heq]; simp [hc]⟩

theorem exists_cutAt_eq_concat (sep : Char) (s : List Char) :
    ∃ init, cutAt sep s = init ++ [(s.reverse.takeWhile (· ≠ sep)).reverse] := by
  induction h : s.reverse generalizing s with
  | nil =>
    rw [List.reverse_eq_nil_iff.1 h]
    exact ⟨[], rfl⟩
  | cons c r ih =>
    obtain rfl : s = r.reverse ++ [c] := by rw [← List.reverse_cons, ← h, List.reverse_reverse]
    by_cases hc : c = sep
    · subst hc
      exact ⟨cutAt c r.reverse, by rw [cutAt_concat_self]; simp⟩
    · obtain ⟨init, heq⟩ := ih r.reverse (List.reverse_reverse r)
      exact ⟨init, by rw [cutAt_concat heq hc]; simp [hc]⟩

/-! ## Trimming -/

theorem trim_append_left (h : ∀ c ∈ gap, isBlank c = true) (s : List Char) :
    trim (gap ++ s) = trim s := by
  rw [trim, List.dropWhile_append_of_pos h, trim]

theorem trim_append_right (h : ∀ c ∈ gap, isBlank c = true) (s : List Char) :
    trim (s ++ gap) = trim s := by
  have hreverse : ∀ c ∈ gap.reverse, isBlank c = true := fun c hc => h c (List.mem_reverse.1 hc)
  have hnone : gap.dropWhile isBlank = [] := List.dropWhile_eq_nil_iff.2 h
  rw [trim, trim, List.dropWhile_append]
  split
  · rename_i hs
    rw [List.isEmpty_iff.1 hs, hnone]
  · rw [List.reverse_append, List.dropWhile_append_of_pos hreverse]

theorem trim_eq_nil_iff : trim s = [] ↔ ∀ c ∈ s, isBlank c = true := by
  constructor
  · intro h c hc
    rw [trim, List.reverse_eq_nil_iff, List.dropWhile_eq_nil_iff] at h
    rw [← List.takeWhile_append_dropWhile (p := isBlank) (l := s), List.mem_append] at hc
    rcases hc with hc | hc
    · exact List.mem_takeWhile_imp hc
    · exact h c (List.mem_reverse.2 hc)
  · intro h
    rw [← List.append_nil s, trim_append_left h, trim_nil]

end Text

namespace Table

variable {p : Cursor} {c : Char} {s r line pre post : List Char}

/-! ## Lines and their cells -/

/-- The cells of a line. -/
def cellsOfLine (line : List Char) : List Cell :=
  (Text.cutAt ',' line).map Text.trim

theorem isBlankLine_iff : isBlankLine line = true ↔ ∀ c ∈ line, Text.isBlank c = true := by
  rw [isBlankLine, List.all_eq_true]

/-- The blank lines are those that have one cell only, and nothing in it. -/
theorem isBlankLine_iff_cells : isBlankLine line = true ↔ cellsOfLine line = [[]] := by
  rw [isBlankLine_iff, cellsOfLine]
  constructor
  · intro h
    have hcomma : ',' ∉ line := fun hmem => absurd (h _ hmem) (by decide)
    rw [Text.cutAt_of_not_mem hcomma, List.map_singleton, Text.trim_eq_nil_iff.2 h]
  · intro h
    obtain ⟨cell, hcut, htrim⟩ := List.map_eq_singleton_iff.1 h
    have hline := Text.intercalate_cutAt ',' line
    rw [hcut] at hline
    obtain rfl : cell = line := by simpa using hline
    exact Text.trim_eq_nil_iff.1 htrim

/-- The record of a line, unless it is blank. -/
def recordOfLine? (line : List Char) : Option (List Cell) :=
  if isBlankLine line then none else some (cellsOfLine line)

theorem plainRecords_eq (s : List Char) :
    plainRecords s = (Text.cutAt '\n' s).filterMap recordOfLine? := by
  rw [plainRecords]
  generalize Text.cutAt '\n' s = lines
  induction lines with
  | nil => rfl
  | cons line lines ih =>
    rw [List.filterMap_cons, List.filter_cons, recordOfLine?]
    cases hblank : isBlankLine line with
    | true => exact ih
    | false => exact congrArg (cellsOfLine line :: ·) ih

theorem plainRecords_of_not_mem (h : '\n' ∉ line) :
    plainRecords line = (recordOfLine? line).toList := by
  rw [plainRecords_eq, Text.cutAt_of_not_mem h]
  cases hrecord : recordOfLine? line <;> simp [hrecord]

theorem plainRecords_append (h : '\n' ∉ line) (s : List Char) :
    plainRecords (line ++ '\n' :: s) = (recordOfLine? line).toList ++ plainRecords s := by
  have hline : Text.cutAt '\n' line = [] ++ [line] := Text.cutAt_of_not_mem h
  rw [plainRecords_eq, Text.cutAt_append hline, Text.cutAt_cons_self, plainRecords_eq]
  cases hrecord : recordOfLine? line <;> simp [hrecord]

/-- A line feed at the end makes no difference. -/
theorem plainRecords_concat_lineFeed (s : List Char) :
    plainRecords (s ++ ['\n']) = plainRecords s := by
  rw [plainRecords_eq, Text.cutAt_concat_self, List.filterMap_append, plainRecords_eq]
  exact List.append_nil _

/-! ## Carriage returns -/

/-- Whether a character stands in a cell, and not between two of them. -/
def inCell (c : Char) : Bool :=
  c != ',' && c != '\n'

/-- Between this point of a text and an end of the cell around it stands white space only. -/
def AtEdge (pre post : List Char) : Prop :=
  (∀ c ∈ pre.reverse.takeWhile inCell, Text.isBlank c = true) ∨
    ∀ c ∈ post.takeWhile inCell, Text.isBlank c = true

theorem takeWhile_inCell (s : List Char) :
    (s.takeWhile (· ≠ '\n')).takeWhile (· ≠ ',') = s.takeWhile inCell := by
  rw [List.takeWhile_takeWhile]
  congr 1
  funext c
  by_cases hcomma : c = ',' <;> by_cases hfeed : c = '\n' <;> simp [inCell, hcomma, hfeed]

theorem trim_insert_return {a b : List Char}
    (h : (∀ c ∈ a, Text.isBlank c = true) ∨ ∀ c ∈ b, Text.isBlank c = true) :
    Text.trim (a ++ '\r' :: b) = Text.trim (a ++ b) := by
  have hreturn {gap : List Char} (hgap : ∀ c ∈ gap, Text.isBlank c = true) :
      ∀ c ∈ '\r' :: gap, Text.isBlank c = true := List.forall_mem_cons.2 ⟨by decide, hgap⟩
  rcases h with ha | hb
  · have hlong : ∀ c ∈ a ++ ['\r'], Text.isBlank c = true :=
      List.forall_mem_append.2 ⟨ha, List.forall_mem_singleton.2 (by decide)⟩
    rw [List.append_cons, Text.trim_append_left hlong, Text.trim_append_left ha]
  · rw [Text.trim_append_right (hreturn hb), Text.trim_append_right hb]

theorem recordOfLine?_insert_return {left right : List Char}
    (h : (∀ c ∈ left.reverse.takeWhile (· ≠ ','), Text.isBlank c = true) ∨
      ∀ c ∈ right.takeWhile (· ≠ ','), Text.isBlank c = true) :
    recordOfLine? (left ++ '\r' :: right) = recordOfLine? (left ++ right) := by
  obtain ⟨before, hbefore⟩ := Text.exists_cutAt_eq_concat ',' left
  obtain ⟨after, hafter⟩ := Text.exists_cutAt_eq_cons ',' right
  have hblank : isBlankLine (left ++ '\r' :: right) = isBlankLine (left ++ right) := by
    simp only [isBlankLine, List.all_append, List.all_cons]
    rw [show Text.isBlank '\r' = true by decide, Bool.true_and]
  have hcells : cellsOfLine (left ++ '\r' :: right) = cellsOfLine (left ++ right) := by
    have hedge := h.imp_left fun hleft c hc => hleft c (List.mem_reverse.1 hc)
    rw [cellsOfLine, cellsOfLine, Text.cutAt_append hbefore, Text.cutAt_append hbefore,
      Text.cutAt_cons_of_ne (by decide), hafter]
    simp only [List.modifyHead_cons, List.map_append, List.map_cons, trim_insert_return hedge]
  rw [recordOfLine?, recordOfLine?, hblank, hcells]

/-- A carriage return at an edge of a cell makes no difference. -/
theorem plainRecords_insert_return (h : AtEdge pre post) :
    plainRecords (pre ++ '\r' :: post) = plainRecords (pre ++ post) := by
  obtain ⟨above, habove⟩ := Text.exists_cutAt_eq_concat '\n' pre
  obtain ⟨below, hbelow⟩ := Text.exists_cutAt_eq_cons '\n' post
  -- only the line around this point is another one
  have hedge : (∀ c ∈ ((pre.reverse.takeWhile (· ≠ '\n')).reverse.reverse).takeWhile (· ≠ ','),
        Text.isBlank c = true) ∨
      ∀ c ∈ (post.takeWhile (· ≠ '\n')).takeWhile (· ≠ ','), Text.isBlank c = true := by
    rw [List.reverse_reverse, takeWhile_inCell, takeWhile_inCell]
    exact h
  have hline := recordOfLine?_insert_return hedge
  rw [plainRecords_eq, plainRecords_eq, Text.cutAt_append habove, Text.cutAt_append habove,
    Text.cutAt_cons_of_ne (by decide), hbelow]
  simp only [List.modifyHead_cons, List.filterMap_append, List.filterMap_cons, hline]

/-! ## Reading -/

/-- A reader that has read these characters of a line, none of which is a quote. -/
structure Cursor.Reads (p : Cursor) (line : List Char) : Prop where
  quoted : p.quoted = false
  sawQuote : p.sawQuote = false
  fields : p.fields = Text.cutAt ',' line

namespace Cursor.Reads

theorem nil : Cursor.Reads {} [] := ⟨rfl, rfl, rfl⟩

theorem record?_eq (h : p.Reads line) : p.record? = recordOfLine? line := by
  rw [Cursor.record?_eq, recordOfLine?, h.fields]
  simp only [h.sawQuote, true_and]
  rw [← cellsOfLine]
  by_cases hblank : isBlankLine line = true
  · rw [if_pos (isBlankLine_iff_cells.1 hblank), if_pos hblank]
  · rw [if_neg fun heq => hblank (isBlankLine_iff_cells.2 heq), if_neg hblank]

theorem take (h : p.Reads line) (hc : c ≠ ',') : (p.take c).Reads (line ++ [c]) where
  quoted := h.quoted
  sawQuote := h.sawQuote
  fields := by
    have hline := h.fields
    rw [Cursor.fields_eq] at hline
    rw [Text.cutAt_concat hline.symm hc, Cursor.fields_eq]
    simp [Cursor.take]

theorem endCell (h : p.Reads line) : p.endCell.Reads (line ++ [',']) where
  quoted := h.quoted
  sawQuote := h.sawQuote
  fields := by rw [Cursor.fields_endCell, h.fields, Text.cutAt_concat_self]

theorem nextRecord (h : p.Reads line) : p.nextRecord.Reads [] := by
  rw [Cursor.nextRecord, h.quoted]
  exact nil

end Cursor.Reads

/-- From where a reader stands in a line, the records are those of the text from the beginning of
this line. -/
theorem recordsFrom_eq_plainRecords (h : p.Reads line) (hline : '\n' ∉ line) (hs : '"' ∉ s) :
    recordsFrom p s = plainRecords (line ++ s) := by
  induction s generalizing p line with
  | nil => rw [recordsFrom_nil, List.append_nil, plainRecords_of_not_mem hline, h.record?_eq]
  | cons c s ih =>
    obtain ⟨hquote, hrest⟩ := List.ne_and_not_mem_of_not_mem_cons hs
    by_cases hcomma : c = ','
    · subst hcomma
      rw [recordsFrom_comma h.quoted, ih h.endCell (by simp [hline]) hrest, ← List.append_cons]
    by_cases hfeed : c = '\n'
    · subst hfeed
      rw [recordsFrom_lineFeed h.quoted, h.record?_eq, ih h.nextRecord (by simp) hrest,
        plainRecords_append hline, List.nil_append]
    by_cases hreturn : c = '\r' ∧ s.head? = some '\n'
    · -- the reader passes this one by, and in its cell it would be trimmed off
      obtain ⟨rfl, hhead⟩ := hreturn
      rw [recordsFrom_return h.quoted hhead, ih h hline hrest]
      obtain ⟨s, rfl⟩ := List.head?_eq_some_iff.1 hhead
      exact (plainRecords_insert_return (.inr (by simp [inCell]))).symm
    · rw [recordsFrom_outside h.quoted hquote.symm hcomma hfeed hreturn,
        ih (h.take hcomma) (by simp [hline, Ne.symm hfeed]) hrest, ← List.append_cons]

/-- **The records of a text without double quotes are those of its lines that are not blank**, each
with the trimmed cells between its commas. A line feed at the end makes no difference, and neither
does a carriage return at an edge of a cell, as before a line feed. -/
theorem records_of_unquoted (s : List Char) (hs : '"' ∉ s) :
    records s = plainRecords s ∧
      records (s ++ ['\n']) = records s ∧
      (∀ pre post, s = pre ++ '\n' :: post → records (pre ++ '\r' :: '\n' :: post) = records s) ∧
      ∀ pre post, s = pre ++ post → AtEdge pre post →
        records (pre ++ '\r' :: post) = records s := by
  have hplain {s : List Char} (hs : '"' ∉ s) : records s = plainRecords s :=
    recordsFrom_eq_plainRecords .nil (by simp) hs
  have hinsert (pre post : List Char) (heq : s = pre ++ post) (hedge : AtEdge pre post) :
      records (pre ++ '\r' :: post) = records s := by
    subst heq
    rw [hplain hs, hplain (by simpa using hs), plainRecords_insert_return hedge]
  refine ⟨hplain hs, ?_, fun pre post heq => ?_, hinsert⟩
  · rw [hplain hs, hplain (by simpa using hs), plainRecords_concat_lineFeed]
  · exact hinsert pre ('\n' :: post) heq (.inr (by simp [inCell]))

/-- A line of white space has no record, and one of a comma has one with two cells. The carriage
return stands before white space at the beginning of its cell. -/
theorem records_of_unquoted_lines : '"' ∉ "a, b\n \n, c\nd".toList ∧
    records "a, b\n \n, c\nd".toList =
      [["a".toList, "b".toList], [[], "c".toList], ["d".toList]] ∧
    records ("a, b\n \n, c\nd".toList ++ ['\n']) = records "a, b\n \n, c\nd".toList ∧
    records ("a, b\n \n,".toList ++ '\r' :: " c\nd".toList) =
      records "a, b\n \n, c\nd".toList := by
  obtain ⟨hplain, hend, -, hedge⟩ := records_of_unquoted "a, b\n \n, c\nd".toList (by decide)
  refine ⟨by decide, hplain.trans (by decide +kernel), hend, ?_⟩
  exact hedge "a, b\n \n,".toList " c\nd".toList (by decide +kernel)
    (.inl (List.all_eq_true.1 (by decide +kernel)))

end Table

end PageScript
