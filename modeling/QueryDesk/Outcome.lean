import QueryDesk.Json.Decode

/-!
# Outcomes

What an engine reports after running a statement: rows of named values, or an error.
-/

namespace QueryDesk

/-- A result row: values by column name, in the order of the SELECT list. -/
abbrev Row := Json.Members

/-- The report of an engine. -/
structure Outcome where
  success : Bool
  error : Option String
  rows : List Row
  columns : List String
  rowCount : Nat
  executionTime : Float
  taskId : Option String
deriving Inhabited

/-- The given columns, or the keys of the first row when none are given. -/
def effectiveColumns (rows : List Row) (columns : List String) : List String :=
  if columns.isEmpty then
    match rows with
    | row :: _ => Json.Members.keys row
    | [] => []
  else columns

namespace Outcome

def completed (taskId : Option String) (columns : List String) (rows : List Row)
    (executionTime : Float) : Outcome :=
  ⟨true, none, rows, effectiveColumns rows columns, rows.length, executionTime, taskId⟩

/-- A failed run, which carries no rows. -/
def failed (taskId : Option String) (error : String) (executionTime : Float) : Outcome :=
  ⟨false, some error, [], [], 0, executionTime, taskId⟩

def toJson (o : Outcome) : Json :=
  .obj [("success", .bool o.success), ("error", .ofOption .str o.error),
    ("data", .arr (o.rows.map .obj)), ("columns", .ofStrings o.columns),
    ("row_count", .ofNat o.rowCount), ("execution_time", .ofFloat o.executionTime),
    ("task_id", .ofOption .str o.taskId)]

def ofJson? (j : Json) : Option Outcome := do
  let s ← j.slots? ["success", "error", "data", "columns", "row_count", "execution_time",
    "task_id"]
  return {
    success := ← (Json.slot s 0).required Json.asBool?
    error := ← (Json.slot s 1).optional Json.asString?
    rows := ← (Json.slot s 2).required (Json.list? Json.asObject?)
    columns := ← (Json.slot s 3).required (Json.list? Json.asString?)
    rowCount := ← (Json.slot s 4).required Json.nat?
    executionTime := ← (Json.slot s 5).required Json.asFloat?
    taskId := ← (Json.slot s 6).optional Json.asString? }

end Outcome

end QueryDesk
