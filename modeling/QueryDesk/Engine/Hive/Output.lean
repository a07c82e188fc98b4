import QueryDesk.Engine.ResultSet
import QueryDesk.Text.Search

/-!
# Hive output

The text a finished job leaves behind: a line of column names, then a line a row, with tabs
between the cells.  Blank lines are passed over.
-/

namespace QueryDesk.Hive

open Text (fields lines afterLast strip isBlank)

/-- The value of a cell: null, a number, or the text itself. -/
def cellValue (text : List Char) : Json :=
  if text = ['N', 'U', 'L', 'L'] then .null
  else match (Decimal.int? text).filter (Decimal.isSigned 64) with
    | some n => .int n
    | none =>
      match (Decimal.float? text).filter Float.isFinite with
      | some x => .float x
      | none => .str (String.ofList text)

/-- The name of a column without its table and outer blanks. -/
def columnName (header : List Char) : String :=
  String.ofList (strip (afterLast '.' header))

def rowOf (columns : List String) (line : List Char) : Row :=
  Row.zip columns ((fields '\t' line).map cellValue)

/-- The result set in a job's output. -/
def resultOf (text : List Char) : ResultSet :=
  match (lines text).filter fun line => !line.all isBlank with
  | [] => ⟨[], []⟩
  | header :: rest =>
    let columns := (fields '\t' header).map columnName
    ⟨columns, rest.map (rowOf columns)⟩

end QueryDesk.Hive
