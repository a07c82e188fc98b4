import QueryDesk.Json.Printer
import QueryDesk.Outcome
import QueryDesk.Text.Quoted

/-!
# Comma-separated text

Cells as text, and rows as comma-separated records with a header.  Records end with a carriage
return and a newline; a field is quoted when it holds a comma, a quote or a line break, quotes
inside it doubled; a record without any text is written as an empty quoted field.
-/

namespace QueryDesk.Report

/-- The text of a cell: strings as they are, nothing for null, JSON for anything else. -/
def cellText : Json → String
  | .str s => s
  | .null => ""
  | other => other.compact

/-- The text of a row's cell in a column, empty where the row has no such column. -/
def cellAt (row : Row) (column : String) : String :=
  match Json.Members.get? column row with
  | some v => cellText v
  | none => ""

namespace Csv

/-- Whether a character makes its field quoted. -/
def needsQuotes (c : Char) : Bool :=
  c == ',' || c == '"' || c == '\r' || c == '\n'

def field (s : List Char) : List Char :=
  if s.any needsQuotes then Text.quotedBy '"' s else s

/-- The fields of a record between commas. -/
def body (fields : List (List Char)) : List Char :=
  [','].intercalate (fields.map field)

theorem body_singleton (s : List Char) : body [s] = field s := by
  rw [body, List.map_singleton, List.intercalate_singleton]

theorem body_cons_cons (s t : List Char) (ss : List (List Char)) :
    body (s :: t :: ss) = field s ++ ',' :: body (t :: ss) := by
  rw [body, List.map_cons, List.map_cons, List.intercalate_cons_cons, List.append_assoc]
  rfl

def record (fields : List (List Char)) : List Char :=
  let text := body fields
  (if text.isEmpty then ['"', '"'] else text) ++ ['\r', '\n']

/-- The records of a header and rows; nothing for no rows. -/
def chars (rows : List Row) (columns : List String) : List Char :=
  if rows.isEmpty then []
  else
    let columns := effectiveColumns rows columns
    record (columns.map String.toList) ++
      rows.flatMap fun row => record (columns.map fun c => (cellAt row c).toList)

def text (rows : List Row) (columns : List String) : String :=
  String.ofList (chars rows columns)

end Csv

end QueryDesk.Report
