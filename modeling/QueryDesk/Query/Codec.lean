import QueryDesk.Query.Basic

/-!
# Queries as JSON

Every part of a query has a JSON form that is written in full and read leniently.  Literals and
operands carry no tag: a literal is told by its JSON kind, an operand by being an object with
bounds, a list, or neither.
-/

namespace QueryDesk

open Json (slot)

namespace Operator

def toJson (o : Operator) : Json := .str o.name

def ofJson? : Json → Option Operator := Json.choice? ofName?

end Operator

namespace Literal

/-- The JSON form; a double that is not finite is written as null. -/
def toJson : Literal → Json
  | bool b => .bool b
  | int n => .int n.toInt
  | float x => .ofFloat x
  | text s => .str s

/-- Reads the JSON form; an integer beyond 64 signed bits becomes a double. -/
def ofJson? : Json → Option Literal
  | .bool b => some (.bool b)
  | .int n => match Json.int64? (.int n) with
    | some k => some (.int k)
    | none => some (.float (Float.ofInt n))
  | .float x => some (.float x)
  | .str s => some (.text s)
  | _ => none

end Literal

namespace Operand

def toJson : Operand → Json
  | range low high => .obj [("low", low.toJson), ("high", high.toJson)]
  | list items => .arr (items.map Literal.toJson)
  | single value => value.toJson

def ofJson? : Json → Option Operand
  | .obj ms => do
    let low ← Json.Members.get? "low" ms
    let high ← Json.Members.get? "high" ms
    return .range (← Literal.ofJson? low) (← Literal.ofJson? high)
  | .arr items => (items.mapM Literal.ofJson?).map .list
  | j => (Literal.ofJson? j).map .single

end Operand

namespace Join

def toJson (j : Join) : Json := .str j.name

def ofJson? : Json → Option Join := Json.choice? ofName?

end Join

namespace Condition

def toJson (c : Condition) : Json :=
  .obj [("field", .str c.field), ("operator", c.operator.toJson), ("value", c.value.toJson),
    ("join", c.join.toJson)]

def ofJson? (j : Json) : Option Condition := do
  let s ← j.slots? ["field", "operator", "value", "join"]
  return {
    field := ← (slot s 0).required Json.asString?
    operator := ← (slot s 1).required Operator.ofJson?
    value := ← (slot s 2).required Operand.ofJson?
    join := ← (slot s 3).withDefault .and Join.ofJson? }

end Condition

namespace Aggregate

def toJson (a : Aggregate) : Json :=
  .obj [("alias", .str a.label), ("function", .str a.function)]

def ofJson? (j : Json) : Option Aggregate := do
  let s ← j.slots? ["alias", "function"]
  return {
    label := ← (slot s 0).required Json.asString?
    function := ← (slot s 1).required Json.asString? }

end Aggregate

namespace Aggregation

def toJson (a : Aggregation) : Json :=
  .obj [("group_by", .ofStrings a.groupBy),
    ("aggregates", .arr (a.aggregates.map Aggregate.toJson))]

def ofJson? (j : Json) : Option Aggregation := do
  let s ← j.slots? ["group_by", "aggregates"]
  return {
    groupBy := ← (slot s 0).required (Json.list? Json.asString?)
    aggregates := ← (slot s 1).required (Json.list? Aggregate.ofJson?) }

end Aggregation

namespace Date

def toJson (d : Date) : Json := .str d.text

def ofJson? (j : Json) : Option Date :=
  j.asString?.bind ofText?

end Date

namespace Window

def toJson : Window → Json
  | absolute start stop =>
    .obj [("kind", .str "absolute"), ("start", .ofOption Date.toJson start),
      ("end", .ofOption Date.toJson stop)]
  | relative days => .obj [("kind", .str "relative"), ("days", .ofNat days.toNat)]

/-- Reads the fields of the window of a kind. -/
def ofKind? (kind : String) (rest : Json) : Option Window := do
  if kind == "absolute" then
    let s ← rest.slots? ["start", "end"]
    return .absolute (← (slot s 0).optional Date.ofJson?) (← (slot s 1).optional Date.ofJson?)
  else if kind == "relative" then
    let s ← rest.slots? ["days"]
    return .relative (← (slot s 0).required Json.uint32?)
  else none

/-- Reads the JSON form: the kind under its key, or as the first item of an array. -/
def ofJson? : Json → Option Window
  | .obj ms => do
    let kind ← (← Json.Members.get? "kind" ms).asString?
    ofKind? kind (.obj ms)
  | .arr (kind :: rest) => do ofKind? (← kind.asString?) (.arr rest)
  | _ => none

end Window

namespace Format

def toJson (f : Format) : Json := .str f.name

def ofJson? : Json → Option Format := Json.choice? ofName?

end Format

namespace SortDirection

def toJson (d : SortDirection) : Json := .str d.name

def ofJson? : Json → Option SortDirection := Json.choice? ofName?

end SortDirection

namespace Presentation

def toJson (p : Presentation) : Json :=
  .obj [("format", p.format.toJson), ("limit", .ofOption (fun n => .ofNat n.toNat) p.limit),
    ("sort_by", .ofOption .str p.sortBy), ("sort_direction", p.direction.toJson)]

def ofJson? (j : Json) : Option Presentation := do
  let s ← j.slots? ["format", "limit", "sort_by", "sort_direction"]
  return {
    format := ← (slot s 0).required Format.ofJson?
    limit := ← (slot s 1).optional Json.asWord?
    sortBy := ← (slot s 2).optional Json.asString?
    direction := ← (slot s 3).required SortDirection.ofJson? }

end Presentation

namespace Analysis

def toJson (a : Analysis) : Json :=
  .obj [("data_entity", .ofOption .str a.dataEntity),
    ("query_type", .ofOption .str a.queryType), ("conditions", .ofOption .str a.conditions),
    ("aggregations", .ofOption .str a.aggregations),
    ("time_range", .ofOption .str a.timeRange),
    ("output_requirements", .ofOption .str a.outputRequirements),
    ("description", .ofOption .str a.description), ("fallback", .bool a.fallback)]

def ofJson? (j : Json) : Option Analysis := do
  let s ← j.slots? ["data_entity", "query_type", "conditions", "aggregations", "time_range",
    "output_requirements", "description", "fallback"]
  return {
    dataEntity := ← (slot s 0).optional Json.asString?
    queryType := ← (slot s 1).optional Json.asString?
    conditions := ← (slot s 2).optional Json.asString?
    aggregations := ← (slot s 3).optional Json.asString?
    timeRange := ← (slot s 4).optional Json.asString?
    outputRequirements := ← (slot s 5).optional Json.asString?
    description := ← (slot s 6).optional Json.asString?
    fallback := ← (slot s 7).withDefault false Json.asBool? }

end Analysis

namespace Query

def toJson (q : Query) : Json :=
  .obj [("original_query", .str q.originalText), ("intent", q.intent.toJson),
    ("data_source", q.source.toJson), ("conditions", .arr (q.conditions.map Condition.toJson)),
    ("aggregation", .ofOption Aggregation.toJson q.aggregation),
    ("time_window", .ofOption Window.toJson q.window), ("output", q.output.toJson),
    ("analysis", q.analysis.toJson), ("description", .str q.description),
    ("confidence_score", .ofFloat q.confidence)]

def ofJson? (j : Json) : Option Query := do
  let s ← j.slots? ["original_query", "intent", "data_source", "conditions", "aggregation",
    "time_window", "output", "analysis", "description", "confidence_score"]
  return {
    originalText := ← (slot s 0).required Json.asString?
    intent := ← (slot s 1).required IntentResult.ofJson?
    source := ← (slot s 2).required SourceRef.ofJson?
    conditions := ← (slot s 3).required (Json.list? Condition.ofJson?)
    aggregation := ← (slot s 4).optional Aggregation.ofJson?
    window := ← (slot s 5).optional Window.ofJson?
    output := ← (slot s 6).required Presentation.ofJson?
    analysis := ← (slot s 7).required Analysis.ofJson?
    description := ← (slot s 8).required Json.asString?
    confidence := ← (slot s 9).required Json.asFloat? }

end Query

end QueryDesk
