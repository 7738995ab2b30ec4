import PageScript.Table.Basic

/-!
# Written records

The text form of records: each cell bare or in quotes, records ended by a line feed with or without
a carriage return before it, and the last record perhaps by nothing.
-/

namespace PageScript.Table

/-- How a cell is written. -/
inductive CellStyle where
  | bare
  | quoted
  deriving DecidableEq, Repr

/-- What ends a record. -/
inductive RecordEnd where
  | lineFeed
  | returnLineFeed
  deriving DecidableEq, Repr

def RecordEnd.text : RecordEnd → List Char
  | .lineFeed => ['\n']
  | .returnLineFeed => ['\r', '\n']

/-- A cell between quotes, with quotes doubled. -/
def quoteCell (cell : Cell) : List Char :=
  '"' :: cell.flatMap (fun c => if c = '"' then ['"', '"'] else [c]) ++ ['"']

def writeCell : CellStyle × Cell → List Char
  | (.bare, cell) => cell
  | (.quoted, cell) => quoteCell cell

/-- Whether a cell may be written bare. -/
def isPlain (cell : Cell) : Bool :=
  cell.all fun c => c != ',' && c != '"' && c != '\r' && c != '\n'

/-- A record: its cells with commas between them. -/
def writeRecord (record : List (CellStyle × Cell)) : List Char :=
  [','].intercalate (record.map writeCell)

/-- Records, each with its end, and a last record that may lack one. -/
def write (records : List (List (CellStyle × Cell) × RecordEnd))
    (last : Option (List (CellStyle × Cell))) : List Char :=
  records.flatMap (fun (record, ending) => writeRecord record ++ ending.text)
    ++ (last.map writeRecord).getD []

/-- Whether a cell's style suits it: it has no white space at either end, and stands in quotes
unless it is plain. -/
def CellFits : CellStyle × Cell → Prop
  | (style, cell) =>
    (∀ c, cell.head? = some c → Text.isBlank c = false) ∧
      (∀ c, cell.getLast? = some c → Text.isBlank c = false) ∧
      (style = .bare → isPlain cell = true)

/-- Whether a record can be written so: it has cells, each fits, and a single empty cell stands in
quotes. -/
def RecordFits (record : List (CellStyle × Cell)) : Prop :=
  record ≠ [] ∧ (∀ cell ∈ record, CellFits cell) ∧ record ≠ [(.bare, [])]

instance (cell : CellStyle × Cell) : Decidable (CellFits cell) :=
  decidable_of_iff (cell.2.head?.all (!Text.isBlank ·) = true ∧
    cell.2.getLast?.all (!Text.isBlank ·) = true ∧ (cell.1 = .bare → isPlain cell.2 = true))
    (by simp only [CellFits, Option.all_eq_true, Bool.not_eq_true'])

instance (record : List (CellStyle × Cell)) : Decidable (RecordFits record) :=
  inferInstanceAs (Decidable (record ≠ [] ∧ (∀ cell ∈ record, CellFits cell) ∧
    record ≠ [(.bare, [])]))

end PageScript.Table
