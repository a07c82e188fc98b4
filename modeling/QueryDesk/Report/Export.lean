import QueryDesk.Fault
import QueryDesk.Report.Envelope
import QueryDesk.Text.Path

/-!
# Exporting

The text of an answer as a file: indented JSON of the payload, or comma-separated rows.  A
failure has no text, nor has a chart as comma-separated rows.
-/

namespace QueryDesk

/-- A file format. -/
inductive FileFormat where
  | json | csv
deriving DecidableEq, Repr, Inhabited

namespace FileFormat

def name : FileFormat → String
  | json => "json"
  | csv => "csv"

def ofName? (s : String) : Option FileFormat :=
  [json, csv].find? (·.name == s)

/-- The format of a name in any ASCII case. -/
def ofAnyCase? (s : String) : Option FileFormat :=
  [json, csv].find? (Text.sameIgnoringAsciiCase ·.name s)

/-- The format that a path's extension implies: comma-separated rows for `csv`, else JSON. -/
def ofPath (path : String) : FileFormat :=
  match Text.pathExtension? path with
  | some ext => if Text.sameIgnoringAsciiCase ext "csv" then csv else json
  | none => json

end FileFormat

namespace Report.Envelope

/-- The text of an answer in a file format. -/
def exportText (e : Envelope) (format : FileFormat) : Except ExportFault String :=
  match e.content with
  | .failure error => .error (.failedResult error)
  | .success data =>
    match format with
    | .json => .ok data.toJson.pretty
    | .csv => match data with
      | .csv text => .ok text
      | _ => match data.tabular? with
        | some (columns, rows) => .ok (Csv.text rows columns)
        | none => .error (.noData "chart data has no rows to write as CSV")

/-- The text of an answer for a path, in the given format or the one that the path implies. -/
def exportTo (e : Envelope) (path : String) (format : Option FileFormat) :
    Except ExportFault String :=
  e.exportText (format.getD (.ofPath path))

/-- Writes the text of an answer to a file; of an answer without a text nothing is written. -/
def save {m : Type → Type} [Monad m] (write : String → String → m (Option String)) (e : Envelope)
    (path : String) (format : Option FileFormat) : m (Except ExportFault Unit) := do
  match e.exportTo path format with
  | .error f => return .error f
  | .ok text =>
    match ← write path text with
    | some detail => return .error (.fileWrite (path ++ ": " ++ detail))
    | none => return .ok ()

end Report.Envelope

end QueryDesk
