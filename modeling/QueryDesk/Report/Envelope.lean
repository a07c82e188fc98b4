import QueryDesk.Report.Payload

/-!
# Envelopes

The uniform answer to a request: a payload or an error, with facts about how it came about.  An
envelope holds one or the other, never both.
-/

namespace QueryDesk.Report

open Json (slot)

/-- What was asked, in short. -/
structure QuerySummary where
  originalText : String
  intent : String
  source : String
  hasConditions : Bool
  hasAggregations : Bool
  confidence : Float
deriving Repr, Inhabited

namespace QuerySummary

def ofQuery (q : Query) : QuerySummary :=
  ⟨q.originalText, q.intent.intent.name, q.source.table, !q.conditions.isEmpty,
    q.aggregation.isSome, q.confidence⟩

def toJson (s : QuerySummary) : Json :=
  .obj [("original_query", .str s.originalText), ("intent", .str s.intent),
    ("data_source", .str s.source), ("has_conditions", .bool s.hasConditions),
    ("has_aggregations", .bool s.hasAggregations), ("confidence_score", .ofFloat s.confidence)]

def ofJson? (j : Json) : Option QuerySummary := do
  let s ← j.slots? ["original_query", "intent", "data_source", "has_conditions",
    "has_aggregations", "confidence_score"]
  return {
    originalText := ← (slot s 0).required Json.asString?
    intent := ← (slot s 1).required Json.asString?
    source := ← (slot s 2).required Json.asString?
    hasConditions := ← (slot s 3).required Json.asBool?
    hasAggregations := ← (slot s 4).required Json.asBool?
    confidence := ← (slot s 5).required Json.asFloat? }

end QuerySummary

/-- How a result came about. -/
structure Metadata where
  taskId : Option String
  executionTime : Float
  rowCount : Nat
  format : Format
  timestamp : String
  summary : Option QuerySummary
deriving Inhabited

namespace Metadata

/-- The facts about a result that nothing is known of but its format and time. -/
def blank (format : Format) (timestamp : String) : Metadata :=
  ⟨none, 0.0, 0, format, timestamp, none⟩

def toJson (m : Metadata) : Json :=
  .obj [("task_id", .ofOption .str m.taskId), ("execution_time", .ofFloat m.executionTime),
    ("row_count", .ofNat m.rowCount), ("format", m.format.toJson),
    ("timestamp", .str m.timestamp), ("query_summary", .ofOption QuerySummary.toJson m.summary)]

end Metadata

/-- A payload, or the error that stands in its place. -/
inductive Content where
  | success (data : Payload)
  | failure (error : String)
deriving Inhabited

/-- The answer to a request. -/
structure Envelope where
  content : Content
  metadata : Metadata
  queryInfo : Option Json
  batchIndex : Option Nat
deriving Inhabited

namespace Envelope

def succeeded (data : Payload) (m : Metadata) : Envelope := ⟨.success data, m, none, none⟩

def failed (error : String) (m : Metadata) : Envelope := ⟨.failure error, m, none, none⟩

def isSuccess (e : Envelope) : Bool :=
  match e.content with
  | .success _ => true
  | .failure _ => false

def data? (e : Envelope) : Option Payload :=
  match e.content with
  | .success d => some d
  | .failure _ => none

def error? (e : Envelope) : Option String :=
  match e.content with
  | .success _ => none
  | .failure error => some error

/-- The answer with details of its query and task. -/
def withQueryInfo (info : Json) (e : Envelope) : Envelope := { e with queryInfo := some info }

/-- The answer with its place in a batch. -/
def withBatchIndex (i : Nat) (e : Envelope) : Envelope := { e with batchIndex := some i }

/-- The answer with one page of its rows; failures and payloads without rows stay as they are. -/
def paginate (page pageSize : Nat) (e : Envelope) : Envelope :=
  match e.content with
  | .success d => { e with content := .success (d.paginate page pageSize) }
  | .failure _ => e

/-- The envelope, then the one after each page of the one before. -/
def pages (e : Envelope) : List (Nat × Nat) → List Envelope
  | [] => [e]
  | (page, size) :: rest => e :: pages (e.paginate page size) rest

/-- The error of a failure that names none. -/
def unknownError : String := "unknown error"

def ofOutcome (timestamp : String) (o : Outcome) (q : Query) (format : Format) : Envelope :=
  let m : Metadata :=
    { Metadata.blank format timestamp with
      taskId := o.taskId, executionTime := o.executionTime }
  if o.success then
    succeeded (.ofRows format o.rows o.columns q)
      { m with rowCount := o.rowCount, summary := some (.ofQuery q) }
  else failed (o.error.getD unknownError) m

/-- The JSON form; what is absent is left out, but for the metadata. -/
def toJson (e : Envelope) : Json :=
  .obj ([("success", .bool e.isSuccess)] ++
    Dataset.memberIf "data" (e.data?.map Payload.toJson) ++
    Dataset.memberIf "error" (e.error?.map .str) ++
    [("metadata", e.metadata.toJson)] ++
    Dataset.memberIf "query_info" e.queryInfo ++
    Dataset.memberIf "batch_index" (e.batchIndex.map .ofNat))

end Envelope

end QueryDesk.Report
