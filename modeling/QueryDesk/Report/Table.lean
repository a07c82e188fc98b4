import QueryDesk.Report.Csv
import QueryDesk.Text.Blank

/-!
# Tables

Rows with a display width for every column, and their text: a header, a rule, a line for every
row and the number of rows.
-/

namespace QueryDesk.Report

/-- Rows with the display widths of their columns. -/
structure Table where
  columns : List String
  rows : List Row
  widths : List Nat
  totalRows : Nat
deriving Inhabited

namespace Table

def maxWidth : Nat := 50

/-- The display width of a column: the length of its longest text, up to the widest. -/
def width (rows : List Row) (column : String) : Nat :=
  min maxWidth ((rows.map fun row => (cellAt row column).length).foldl max column.length)

def ofRows (rows : List Row) (columns : List String) : Table :=
  let columns := effectiveColumns rows columns
  ⟨columns, rows, columns.map (width rows), rows.length⟩

/-- A text cut or filled with blanks to a width. -/
def cell (width : Nat) (text : List Char) : List Char :=
  let cut := text.take width
  cut ++ List.replicate (width - cut.length) ' '

/-- Texts in columns of the given widths, before trailing blanks are dropped. -/
def line (widths : List Nat) (texts : List (List Char)) : List Char :=
  [' ', '|', ' '].intercalate (List.zipWith cell widths texts)

def rule (widths : List Nat) : List Char :=
  ['-', '+', '-'].intercalate (widths.map fun w => List.replicate w '-')

def lines (t : Table) : List (List Char) :=
  Text.stripEnd (line t.widths (t.columns.map String.toList)) :: rule t.widths ::
    t.rows.map (fun row =>
      Text.stripEnd (line t.widths (t.columns.map fun c => (cellAt row c).toList))) ++
    [('(' :: Decimal.digitsOf t.totalRows ++ " rows)".toList)]

def render (t : Table) : String :=
  String.ofList (t.lines.flatMap fun l => l ++ ['\n'])

def toJson (t : Table) : Json :=
  .obj [("columns", .ofStrings t.columns), ("rows", .arr (t.rows.map .obj)),
    ("column_widths", .arr (t.widths.map .ofNat)), ("total_rows", .ofNat t.totalRows)]

def ofJson? (j : Json) : Option Table := do
  let s ← j.slots? ["columns", "rows", "column_widths", "total_rows"]
  return {
    columns := ← (Json.slot s 0).required (Json.list? Json.asString?)
    rows := ← (Json.slot s 1).required (Json.list? Json.asObject?)
    widths := ← (Json.slot s 2).required (Json.list? Json.nat?)
    totalRows := ← (Json.slot s 3).required Json.nat? }

end Table

end QueryDesk.Report
