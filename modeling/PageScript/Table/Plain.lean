import PageScript.Table.Basic
import PageScript.Text.Search

/-!
# Records without quotes

The plain way to read records of a text that has no double quotes: cut it into lines, drop the lines
that are blank, cut each line at its commas and trim the cells.
-/

namespace PageScript.Table

/-- Whether a line consists of white space only. -/
def isBlankLine (line : List Char) : Bool :=
  line.all Text.isBlank

/-- The records of a text without double quotes. -/
def plainRecords (s : List Char) : List (List Cell) :=
  ((Text.cutAt '\n' s).filter (!isBlankLine ·)).map fun line =>
    (Text.cutAt ',' line).map Text.trim

end PageScript.Table
