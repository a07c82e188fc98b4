import QueryDesk.Query.Codec
import QueryDesk.Report.Chart
import QueryDesk.Report.Page
import QueryDesk.Report.Table

/-!
# Payloads

The shapes in which rows are handed over.  Their JSON forms carry no tag: a value is read as the
first shape, in a fixed order, that it fits.
-/

namespace QueryDesk.Report

/-- Rows with a summary of the query. -/
structure Listing where
  columns : List String
  rows : List Row
  totalRows : Nat
  queryType : String
  confidence : Float
deriving Inhabited

namespace Listing

/-- The listing of rows for a query. -/
def ofRows (rows : List Row) (columns : List String) (q : Query) : Listing :=
  ⟨columns, rows, rows.length, q.intent.intent.name, q.confidence⟩

def toJson (l : Listing) : Json :=
  .obj [("columns", .ofStrings l.columns), ("rows", .arr (l.rows.map .obj)),
    ("summary", .obj [("total_rows", .ofNat l.totalRows), ("query_type", .str l.queryType),
      ("confidence", .ofFloat l.confidence)])]

def summaryOfJson? (j : Json) : Option (Nat × String × Float) := do
  let s ← j.slots? ["total_rows", "query_type", "confidence"]
  return (← (Json.slot s 0).required Json.nat?, ← (Json.slot s 1).required Json.asString?,
    ← (Json.slot s 2).required Json.asFloat?)

def ofJson? (j : Json) : Option Listing := do
  let s ← j.slots? ["columns", "rows", "summary"]
  let columns ← (Json.slot s 0).required (Json.list? Json.asString?)
  let rows ← (Json.slot s 1).required (Json.list? Json.asObject?)
  let (totalRows, queryType, confidence) ← (Json.slot s 2).required summaryOfJson?
  return ⟨columns, rows, totalRows, queryType, confidence⟩

end Listing

/-- The data of a successful answer. -/
inductive Payload where
  | listing (data : Listing)
  | csv (text : String)
  | table (data : Table)
  | chart (data : Chart)
  | page (data : PagedRows)
deriving Inhabited

namespace Payload

/-- Columns and rows, for the shapes that have them. -/
def tabular? : Payload → Option (List String × List Row)
  | listing l => some (l.columns, l.rows)
  | table t => some (t.columns, t.rows)
  | page p => some (p.columns, p.rows)
  | csv _ => none
  | chart _ => none

/-- The payload of rows in a format. -/
def ofRows (format : Format) (rows : List Row) (columns : List String) (q : Query) : Payload :=
  match format with
  | .json => .listing (.ofRows rows columns q)
  | .csv => .csv (Csv.text rows columns)
  | .table => .table (.ofRows rows columns)
  | .chart => .chart (.ofRows rows columns q.intent.intent)

/-- One page of a payload that has rows; any other payload as it is. -/
def paginate (page pageSize : Nat) (p : Payload) : Payload :=
  match p.tabular? with
  | some (columns, rows) => .page (.of columns rows page pageSize)
  | none => p

def shape : Payload → String
  | listing _ => "json"
  | csv _ => "csv"
  | table _ => "table"
  | chart _ => "chart"
  | page _ => "paged"

def toJson : Payload → Json
  | listing l => l.toJson
  | csv text => .str text
  | table t => t.toJson
  | chart c => c.toJson
  | page p => p.toJson

def ofJson? (j : Json) : Option Payload :=
  (Listing.ofJson? j).map listing <|> (j.asString?).map csv <|> (Table.ofJson? j).map table <|>
    (Chart.ofJson? j).map chart <|> (PagedRows.ofJson? j).map page

end Payload

end QueryDesk.Report
