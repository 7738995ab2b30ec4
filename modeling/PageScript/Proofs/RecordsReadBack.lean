import PageScript.Table.Reader
import PageScript.Table.Written

/-!
# Written records are read back

Whatever way is chosen to write each cell and to end each record, reading gives the records back.
The reader comes to the end of a cell with the characters of this cell and no others, since a bare
cell has none that would count and in a quoted one each quote is doubled; it has then seen a quote
if and only if the cell is quoted (`Cursor.having`). So it comes to the end of a record with its
cells, and such a record is not passed by as blank: the only one that might be, with one empty cell,
is quoted.

What follows a written cell is a comma, the end of a record or the end of the text, but never a
quote, which the reader would take for one that is doubled.
-/

namespace PageScript.Table

/-- The cells of a record, however they are written. -/
def plainCells (record : List (CellStyle × Cell)) : List Cell :=
  record.map (·.2)

namespace Cursor

/-- The reader when it has read a cell that is written in some style. -/
def having (p : Cursor) (cell : CellStyle × Cell) : Cursor :=
  { p with
    cell := cell.2.reverse ++ p.cell
    sawQuote := p.sawQuote || cell.1 == .quoted }

/-- The reader when it has read the cells of a record. -/
def havingAll (p : Cursor) : List (CellStyle × Cell) → Cursor
  | [] => p
  | [cell] => p.having cell
  | cell :: cells => (p.having cell).endCell.havingAll cells

@[simp] theorem quoted_having (p : Cursor) (cell : CellStyle × Cell) :
    (p.having cell).quoted = p.quoted := rfl

theorem havingAll_cons (p : Cursor) (cell : CellStyle × Cell)
    {record : List (CellStyle × Cell)} (hne : record ≠ []) :
    p.havingAll (cell :: record) = (p.having cell).endCell.havingAll record := by
  rw [havingAll]
  exact hne

end Cursor

variable {p : Cursor} {r : List Char} {cell : CellStyle × Cell} {record : List (CellStyle × Cell)}

/-! ## Cells -/

theorem recordsFrom_bare (hq : p.quoted = false) {cell : Cell} (hcell : isPlain cell = true) :
    recordsFrom p (cell ++ r) = recordsFrom (p.having (.bare, cell)) r := by
  induction cell generalizing p with
  | nil =>
    have hsame : p.having (.bare, []) = p := by simp [Cursor.having, show
      (CellStyle.bare == .quoted) = false from rfl]
    rw [hsame, List.nil_append]
  | cons c cell ih =>
    simp only [isPlain, List.all_cons, Bool.and_eq_true, bne_iff_ne] at hcell
    obtain ⟨⟨⟨⟨hcomma, hquote⟩, hreturn⟩, hfeed⟩, hrest⟩ := hcell
    rw [List.cons_append, recordsFrom_outside hq hquote hcomma hfeed fun h => hreturn h.1,
      ih ((p.quoted_take c).trans hq) hrest]
    simp [Cursor.having, Cursor.take]

/-- Inside quotes a cell is read up to the quote that closes it. -/
theorem recordsFrom_quoted (hq : p.quoted = true) (hr : r.head? ≠ some '"') (cell : Cell) :
    recordsFrom p (cell.flatMap (fun c => if c = '"' then ['"', '"'] else [c]) ++ '"' :: r) =
      recordsFrom
        { p with cell := cell.reverse ++ p.cell, quoted := false, sawQuote := true } r := by
  induction cell generalizing p with
  | nil =>
    rw [List.flatMap_nil, List.nil_append, recordsFrom_closing hq hr]
    simp [Cursor.turnQuote, hq]
  | cons c cell ih =>
    rw [List.flatMap_cons]
    by_cases hc : c = '"'
    · subst hc
      rw [if_pos rfl, List.append_assoc, List.cons_append, List.cons_append, List.nil_append,
        recordsFrom_doubled hq, ih ((p.quoted_take _).trans hq)]
      simp [Cursor.take]
    · rw [if_neg hc, List.append_assoc, List.cons_append, List.nil_append,
        recordsFrom_inside hq hc, ih ((p.quoted_take c).trans hq)]
      simp [Cursor.take]

theorem recordsFrom_writeCell (hq : p.quoted = false) (hr : r.head? ≠ some '"')
    (hcell : CellFits cell) :
    recordsFrom p (writeCell cell ++ r) = recordsFrom (p.having cell) r := by
  obtain ⟨_ | _, cell⟩ := cell
  · exact recordsFrom_bare hq (hcell.2.2 rfl)
  · have hopened : p.turnQuote.quoted = true := by simp [Cursor.turnQuote, hq]
    rw [writeCell, quoteCell, List.append_assoc, List.cons_append, List.singleton_append,
      recordsFrom_opening hq, recordsFrom_quoted hopened hr]
    simp [Cursor.having, Cursor.turnQuote, hq]

/-! ## Records -/

theorem writeRecord_cons (cell : CellStyle × Cell) (hrecord : record ≠ []) :
    writeRecord (cell :: record) = writeCell cell ++ ',' :: writeRecord record := by
  obtain ⟨next, record, rfl⟩ := List.exists_cons_of_ne_nil hrecord
  simp [writeRecord, List.intercalate_cons_cons]

theorem recordsFrom_writeRecord (hq : p.quoted = false) (hr : r.head? ≠ some '"')
    (hrecord : ∀ cell ∈ record, CellFits cell) (hne : record ≠ []) :
    recordsFrom p (writeRecord record ++ r) = recordsFrom (p.havingAll record) r := by
  induction record generalizing p with
  | nil => exact absurd rfl hne
  | cons cell record ih =>
    obtain ⟨hcell, hrest⟩ := List.forall_mem_cons.1 hrecord
    by_cases hlast : record = []
    · subst hlast
      rw [show writeRecord [cell] = writeCell cell by simp [writeRecord],
        recordsFrom_writeCell hq hr hcell, Cursor.havingAll]
    · have hhaving : (p.having cell).quoted = false := hq
      rw [writeRecord_cons cell hlast, List.append_assoc, List.cons_append,
        recordsFrom_writeCell hq (by simp) hcell, recordsFrom_comma hhaving,
        ih ((Cursor.quoted_endCell _).trans hhaving) hrest hlast, p.havingAll_cons cell hlast]

theorem quoted_havingAll (p : Cursor) (record : List (CellStyle × Cell)) :
    (p.havingAll record).quoted = p.quoted := by
  induction record generalizing p with
  | nil => rfl
  | cons cell record ih =>
    cases record with
    | nil => rfl
    | cons next record => exact (ih _).trans rfl

theorem sawQuote_havingAll (p : Cursor) (record : List (CellStyle × Cell)) :
    (p.havingAll record).sawQuote = (p.sawQuote || record.any (·.1 == .quoted)) := by
  induction record generalizing p with
  | nil => simp [Cursor.havingAll]
  | cons cell record ih =>
    cases record with
    | nil => simp [Cursor.havingAll, Cursor.having]
    | cons next record =>
      have hhaving : (p.having cell).endCell.sawQuote = (p.sawQuote || cell.1 == .quoted) := rfl
      rw [p.havingAll_cons cell (List.cons_ne_nil _ _), ih, hhaving, List.any_cons (a := cell),
        Bool.or_assoc]

theorem fields_havingAll (hp : p.cell = []) (hne : record ≠ []) :
    (p.havingAll record).fields = p.cells.reverse ++ plainCells record := by
  induction record generalizing p with
  | nil => exact absurd rfl hne
  | cons cell record ih =>
    cases record with
    | nil => simp [Cursor.havingAll, Cursor.fields_eq, Cursor.having, hp, plainCells]
    | cons next record =>
      rw [p.havingAll_cons cell (List.cons_ne_nil _ _), ih rfl (List.cons_ne_nil _ _)]
      simp [Cursor.endCell, Cursor.having, hp, plainCells]

theorem trim_of_fits (hrecord : ∀ cell ∈ record, CellFits cell) :
    (plainCells record).map Text.trim = plainCells record := by
  rw [plainCells, List.map_map]
  refine List.map_congr_left fun cell hmem => ?_
  have hcell := hrecord cell hmem
  exact Text.trim_eq_self hcell.1 hcell.2.1

/-- A record that can be written so is none that is passed by. -/
theorem record?_havingAll (hfits : RecordFits record) :
    (Cursor.havingAll {} record).record? = some (plainCells record) := by
  obtain ⟨hne, hcells, hempty⟩ := hfits
  rw [Cursor.record?_eq, fields_havingAll rfl hne, sawQuote_havingAll, List.reverse_nil,
    List.nil_append, trim_of_fits hcells, if_neg]
  -- the only record that looks blank has one empty cell, and this one is quoted
  rintro ⟨hbare, hblank⟩
  obtain ⟨⟨style, cell⟩, rfl, rfl⟩ := List.map_eq_singleton_iff.1 hblank
  cases style with
  | bare => exact hempty rfl
  | quoted => simp at hbare

theorem recordsFrom_ending (hq : p.quoted = false) (ending : RecordEnd) :
    recordsFrom p (ending.text ++ r) = p.record?.toList ++ recordsFrom {} r := by
  have hfeed : recordsFrom p ('\n' :: r) = p.record?.toList ++ recordsFrom {} r := by
    rw [recordsFrom_lineFeed hq, Cursor.nextRecord, hq]
  cases ending with
  | lineFeed => exact hfeed
  | returnLineFeed => exact (recordsFrom_return hq rfl).trans hfeed

/-! ## Texts -/

/-- A record and its end are read, and then the reader starts anew. -/
theorem records_writeRecord (hfits : RecordFits record) (ending : RecordEnd) (r : List Char) :
    records (writeRecord record ++ ending.text ++ r) = plainCells record :: records r := by
  have hhead : (ending.text ++ r).head? ≠ some '"' := by cases ending <;> simp [RecordEnd.text]
  rw [records, List.append_assoc, recordsFrom_writeRecord rfl hhead hfits.2.1 hfits.1,
    recordsFrom_ending (quoted_havingAll ..), record?_havingAll hfits]
  rfl

theorem records_write {ended : List (List (CellStyle × Cell) × RecordEnd)}
    {last : Option (List (CellStyle × Cell))}
    (hfits : ∀ record ∈ ended.map (·.1) ++ last.toList, RecordFits record) :
    records (write ended last) = (ended.map (·.1) ++ last.toList).map plainCells := by
  induction ended with
  | nil =>
    cases last with
    | none => rfl
    | some record =>
      -- this one is ended by the end of the text
      have hrecord : RecordFits record := hfits record (.head _)
      have hread := recordsFrom_writeRecord (p := {}) (r := []) rfl (by simp) hrecord.2.1 hrecord.1
      rw [List.append_nil, recordsFrom_nil, record?_havingAll hrecord] at hread
      exact hread
  | cons written ended ih =>
    obtain ⟨record, ending⟩ := written
    obtain ⟨hrecord, hrest⟩ := List.forall_mem_cons.1 hfits
    have hwrite : write ((record, ending) :: ended) last =
        writeRecord record ++ ending.text ++ write ended last := by
      simp [write]
    rw [hwrite, records_writeRecord hrecord, ih hrest]
    rfl

/-- **Records are read back as they have been written**, each cell bare or in quotes and each record
with either end, the last one perhaps with none; so the first of them holds the headers of the
table, and the others its rows. -/
theorem readBack_of_write (ended : List (List (CellStyle × Cell) × RecordEnd))
    (last : Option (List (CellStyle × Cell))) (header : List (CellStyle × Cell))
    (rows : List (List (CellStyle × Cell)))
    (hall : ended.map (·.1) ++ last.toList = header :: rows)
    (hfits : ∀ record ∈ header :: rows, RecordFits record) :
    records (write ended last) = (header :: rows).map plainCells ∧
      Table.ofText (String.ofList (write ended last)) =
        { headers := (plainCells header).map String.ofList
          rows := rows.map fun row => (plainCells row).map String.ofList } := by
  have hread : records (write ended last) = (header :: rows).map plainCells := by
    rw [← hall] at hfits ⊢
    exact records_write hfits
  refine ⟨hread, ?_⟩
  rw [Table.ofText, String.toList_ofList, hread]
  simp

/-- A header with a comma and quotes in a cell. -/
def quotedHeader : List (CellStyle × Cell) :=
  [(.bare, ['n']), (.quoted, ['a', ',', ' ', '"', 'b', '"'])]

/-- Two rows, one with an empty cell only and one with a line break in a cell. -/
def brokenRows : List (List (CellStyle × Cell)) :=
  [[(.quoted, [])], [(.bare, []), (.quoted, ['x', '\r', '\n', 'y'])]]

theorem readBack_of_write_broken : (∀ record ∈ quotedHeader :: brokenRows, RecordFits record) ∧
    Table.ofText "n,\"a, \"\"b\"\"\"\r\n\"\"\n,\"x\r\ny\"" =
      { headers := ["n", "a, \"b\""], rows := [[""], ["", "x\r\ny"]] } := by
  have hfits : ∀ record ∈ quotedHeader :: brokenRows, RecordFits record := by decide
  refine ⟨hfits, ?_⟩
  have hread := (readBack_of_write
    [(quotedHeader, .returnLineFeed), ([(.quoted, [])], .lineFeed)]
    (some [(.bare, []), (.quoted, ['x', '\r', '\n', 'y'])]) quotedHeader brokenRows rfl hfits).2
  exact hread

end PageScript.Table
