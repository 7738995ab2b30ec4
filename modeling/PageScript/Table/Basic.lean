import PageScript.Text.Blank

/-!
# Tables

A table is a header record and rows of cells. Its text form separates cells by commas and records
by line feeds, with a carriage return before a line feed left out. Double quotes take commas, line
ends and, doubled, quotes into a cell. Cells are trimmed; a record of one empty cell without quotes
is no record at all.
-/

namespace PageScript

namespace Table

/-- One cell of a record. -/
abbrev Cell := List Char

/-- Where a reader of records stands: the cells of the record so far and the characters of the
present cell, both in reverse, whether it is inside quotes, and whether the record had any. -/
structure Cursor where
  cells : List Cell := []
  cell : List Char := []
  quoted : Bool := false
  sawQuote : Bool := false

namespace Cursor

/-- Takes a character into the present cell. -/
def take (p : Cursor) (c : Char) : Cursor :=
  { p with cell := c :: p.cell }

/-- Ends the present cell. -/
def endCell (p : Cursor) : Cursor :=
  { p with cells := p.cell.reverse :: p.cells, cell := [] }

/-- Enters or leaves quotes. -/
def turnQuote (p : Cursor) : Cursor :=
  { p with quoted := !p.quoted, sawQuote := true }

/-- The record that ends here, unless it is blank. -/
def record? (p : Cursor) : Option (List Cell) :=
  let record := p.endCell.cells.reverse.map Text.trim
  if !p.sawQuote && record == [[]] then none else some record

/-- The start of the next record. -/
def nextRecord (p : Cursor) : Cursor :=
  { quoted := p.quoted }

/-- Whether a record has been begun. -/
def isBegun (p : Cursor) : Bool :=
  !p.cell.isEmpty || !p.cells.isEmpty || p.sawQuote

end Cursor

/-- The records of a text, read from where a reader stands. -/
def recordsFrom (p : Cursor) : List Char → List (List Cell)
  | [] => if p.isBegun then p.record?.toList else []
  | '"' :: r =>
    if p.quoted then
      match r with
      | '"' :: r => recordsFrom (p.take '"') r
      | r => recordsFrom p.turnQuote r
    -- a quote may also stand in the midst of a cell
    else recordsFrom p.turnQuote r
  | c :: r =>
    if p.quoted then recordsFrom (p.take c) r
    else if c = ',' then recordsFrom p.endCell r
    else if c = '\r' ∧ r.head? = some '\n' then recordsFrom p r
    else if c = '\n' then p.record?.toList ++ recordsFrom p.nextRecord r
    else recordsFrom (p.take c) r

/-- The records of a text. -/
def records (s : List Char) : List (List Cell) :=
  recordsFrom {} s

end Table

/-- Headers and rows of cells; a row may be shorter or longer than the headers. -/
structure Table where
  headers : List String := []
  rows : List (List String) := []
  deriving DecidableEq, Repr

namespace Table

/-- Reads a table: the first record holds the headers. -/
def ofText (s : String) : Table :=
  match (records s.toList).map (·.map String.ofList) with
  | [] => {}
  | headers :: rows => { headers, rows }

/-- What a row binds: for each header the cell at its place, or nothing where the row is shorter. -/
def bindings (named : String → String) (headers row : List String) : List (String × String) :=
  headers.mapIdx fun i header => (named header, row.getD i "")

end Table
end PageScript
