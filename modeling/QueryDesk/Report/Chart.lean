import QueryDesk.Intent
import QueryDesk.Report.Csv

/-!
# Charts

A chart specification chosen by the intent of the request: bars for statistics and rankings,
lines for trends, a pie for distributions.  Rows that suit no chart are kept as a table.
-/

namespace QueryDesk.Report

open Json (slot)

/-- One colour for all points, or one for each. -/
inductive Colors where
  | single (color : String)
  | each (colors : List String)
deriving DecidableEq, Repr, Inhabited

namespace Colors

def toJson : Colors → Json
  | single c => .str c
  | each cs => .ofStrings cs

def ofJson? : Json → Option Colors
  | .str c => some (.single c)
  | .arr items => (items.mapM Json.asString?).map .each
  | _ => none

end Colors

/-- One series of values. -/
structure Dataset where
  label : Option String
  data : List Json
  background : Colors
  border : Colors
  borderWidth : Option UInt32
  tension : Option Float
deriving Inhabited

namespace Dataset

/-- A member that is left out when absent. -/
def memberIf (key : String) : Option Json → List (String × Json)
  | some v => [(key, v)]
  | none => []

def toJson (d : Dataset) : Json :=
  .obj (memberIf "label" (d.label.map .str) ++
    [("data", .arr d.data), ("backgroundColor", d.background.toJson),
      ("borderColor", d.border.toJson)] ++
    memberIf "borderWidth" (d.borderWidth.map fun n => .ofNat n.toNat) ++
    memberIf "tension" (d.tension.map .ofFloat))

def ofJson? (j : Json) : Option Dataset := do
  let s ← j.slots? ["label", "data", "backgroundColor", "borderColor", "borderWidth", "tension"]
  return {
    label := ← (slot s 0).optional Json.asString?
    data := ← (slot s 1).required Json.asArray?
    background := ← (slot s 2).required Colors.ofJson?
    border := ← (slot s 3).required Colors.ofJson?
    borderWidth := ← (slot s 4).optional Json.uint32?
    tension := ← (slot s 5).optional Json.asFloat? }

end Dataset

/-- Labels and the series over them. -/
structure ChartData where
  labels : List String
  datasets : List Dataset
deriving Inhabited

namespace ChartData

def toJson (d : ChartData) : Json :=
  .obj [("labels", .ofStrings d.labels), ("datasets", .arr (d.datasets.map Dataset.toJson))]

def ofJson? (j : Json) : Option ChartData := do
  let s ← j.slots? ["labels", "datasets"]
  return {
    labels := ← (slot s 0).required (Json.list? Json.asString?)
    datasets := ← (slot s 1).required (Json.list? Dataset.ofJson?) }

end ChartData

/-- How a chart is displayed. -/
structure ChartOptions where
  responsive : Bool
  legend : String
  showTitle : Bool
  title : String
deriving DecidableEq, Repr, Inhabited

namespace ChartOptions

def titled (legend title : String) : ChartOptions := ⟨true, legend, true, title⟩

def toJson (o : ChartOptions) : Json :=
  .obj [("responsive", .bool o.responsive),
    ("plugins", .obj [("legend", .obj [("position", .str o.legend)]),
      ("title", .obj [("display", .bool o.showTitle), ("text", .str o.title)])])]

def legendOfJson? (j : Json) : Option String := do
  let s ← j.slots? ["position"]
  (slot s 0).required Json.asString?

def titleOfJson? (j : Json) : Option (Bool × String) := do
  let s ← j.slots? ["display", "text"]
  return (← (slot s 0).required Json.asBool?, ← (slot s 1).required Json.asString?)

def pluginsOfJson? (j : Json) : Option (String × Bool × String) := do
  let s ← j.slots? ["legend", "title"]
  return (← (slot s 0).required legendOfJson?, ← (slot s 1).required titleOfJson?)

def ofJson? (j : Json) : Option ChartOptions := do
  let s ← j.slots? ["responsive", "plugins"]
  let responsive ← (slot s 0).required Json.asBool?
  let (legend, showTitle, title) ← (slot s 1).required pluginsOfJson?
  return ⟨responsive, legend, showTitle, title⟩

end ChartOptions

/-- A chart, or what stands in for one. -/
inductive Chart where
  | bar (horizontal : Bool) (data : ChartData) (options : ChartOptions)
  | line (data : ChartData) (options : ChartOptions)
  | pie (data : ChartData) (options : ChartOptions)
  /-- Rows that no chart was drawn of, and why. -/
  | table (columns : List String) (data : List Row) (message : String)
  /-- Nothing to draw, and why. -/
  | empty (data : List Row) (error : String)
deriving Inhabited

namespace Chart

/-! ## Drawing -/

def maxSlices : Nat := 20

def channel (n : Int) : Nat :=
  if n < 0 then 0 else if 255 < n then 255 else n.toNat

/-- A colour of three channels and an opacity. -/
def rgba (r g b : Int) (opacity : String) : String :=
  let part n := String.ofList (Decimal.digitsOf (channel n))
  "rgba(" ++ part r ++ ", " ++ part g ++ ", " ++ part b ++ ", " ++ opacity ++ ")"

/-- The hue of the `i`-th slice in half degrees: steps of the golden angle around the circle. -/
def hueHalves (i : Nat) : Nat := 275 * i % 720

def sliceColor (i : Nat) : String :=
  let h := hueHalves i
  "hsl(" ++ String.ofList (Decimal.digitsOf (h / 2)) ++ (if h % 2 = 1 then ".5" else "") ++
    ", 70%, 50%)"

def labels (rows : List Row) (column : String) : List String :=
  rows.map (cellAt · column)

/-- The values of a column, zero where a row has none. -/
def series (rows : List Row) (column : String) : List Json :=
  rows.map fun row => (Json.Members.get? column row).getD (.int 0)

/-- The `i`-th series of a bar chart. -/
def barDataset (rows : List Row) (i : Nat) (column : String) : Dataset :=
  let (r, g, b) : Int × Int × Int := (54 + 30 * i, 162 - 20 * i, 235 - 10 * i)
  { label := some column
    data := series rows column
    background := .single (rgba r g b "0.6")
    border := .single (rgba r g b "1")
    borderWidth := some 1
    tension := none }

/-- The `i`-th series of a line chart. -/
def lineDataset (rows : List Row) (i : Nat) (column : String) : Dataset :=
  let (r, g, b) : Int × Int × Int := (75 + 20 * i, 192 - 15 * i, 192 - 10 * i)
  { label := some column
    data := series rows column
    background := .single (rgba r g b "0.2")
    border := .single (rgba r g b "1")
    borderWidth := none
    tension := some 0.1 }

/-- Series numbered from one. -/
def datasets (draw : Nat → String → Dataset) (columns : List String) : List Dataset :=
  columns.mapIdx fun i column => draw (i + 1) column

/-- Rows kept as a table. -/
def asTable (rows : List Row) (columns : List String) : Chart :=
  .table columns rows "data shown as a table"

/-- A bar chart over the first column. -/
def bars (horizontal : Bool) (rows : List Row) : List String → Chart
  | first :: second :: more =>
    .bar horizontal ⟨labels rows first, datasets (barDataset rows) (second :: more)⟩
      (.titled "top" "Statistics")
  | columns => asTable rows columns

/-- A line chart over the first column. -/
def lines (rows : List Row) : List String → Chart
  | first :: second :: more =>
    .line ⟨labels rows first, datasets (lineDataset rows) (second :: more)⟩
      (.titled "top" "Trend")
  | columns => asTable rows columns

/-- A pie of the second column, unless it has too many slices. -/
def slices (rows : List Row) (columns : List String) : Chart :=
  match columns with
  | first :: second :: _ =>
    if rows.length ≤ maxSlices then
      let colors := (List.range rows.length).map sliceColor
      .pie ⟨labels rows first, [{
        label := none
        data := series rows second
        background := .each colors
        border := .each colors
        borderWidth := some 1
        tension := none }]⟩ (.titled "right" "Distribution")
    else asTable rows columns
  | _ => asTable rows columns

/-- The chart of rows for an intent. -/
def ofRows (rows : List Row) (columns : List String) (intent : Intent) : Chart :=
  if rows.isEmpty then .empty [] "no data to chart"
  else
    let columns := effectiveColumns rows columns
    match intent with
    | .statistics => bars false rows columns
    | .ranking => bars true rows columns
    | .trend => lines rows columns
    | .distribution => slices rows columns
    | _ => asTable rows columns

/-! ## JSON -/

def toJson : Chart → Json
  | bar horizontal data options =>
    .obj [("type", .str "bar"), ("horizontal", .bool horizontal), ("data", data.toJson),
      ("options", options.toJson)]
  | line data options =>
    .obj [("type", .str "line"), ("data", data.toJson), ("options", options.toJson)]
  | pie data options =>
    .obj [("type", .str "pie"), ("data", data.toJson), ("options", options.toJson)]
  | table columns data message =>
    .obj [("type", .str "table"), ("columns", .ofStrings columns),
      ("data", .arr (data.map .obj)), ("message", .str message)]
  | empty data error =>
    .obj [("type", .str "chart"), ("data", .arr (data.map .obj)), ("error", .str error)]

def drawn? (rest : Json) : Option (ChartData × ChartOptions) := do
  let s ← rest.slots? ["data", "options"]
  return (← (slot s 0).required ChartData.ofJson?, ← (slot s 1).required ChartOptions.ofJson?)

/-- Reads the fields of the chart of a type. -/
def ofType? (type : String) (rest : Json) : Option Chart := do
  match type with
  | "bar" =>
    let s ← rest.slots? ["horizontal", "data", "options"]
    return .bar (← (slot s 0).required Json.asBool?) (← (slot s 1).required ChartData.ofJson?)
      (← (slot s 2).required ChartOptions.ofJson?)
  | "line" => return .line (← drawn? rest).1 (← drawn? rest).2
  | "pie" => return .pie (← drawn? rest).1 (← drawn? rest).2
  | "table" =>
    let s ← rest.slots? ["columns", "data", "message"]
    return .table (← (slot s 0).required (Json.list? Json.asString?))
      (← (slot s 1).required (Json.list? Json.asObject?)) (← (slot s 2).required Json.asString?)
  | "chart" =>
    let s ← rest.slots? ["data", "error"]
    return .empty (← (slot s 0).required (Json.list? Json.asObject?))
      (← (slot s 1).required Json.asString?)
  | _ => none

/-- Reads the JSON form: the type under its key, or as the first item of an array. -/
def ofJson? : Json → Option Chart
  | .obj ms => do
    let type ← (← Json.Members.get? "type" ms).asString?
    ofType? type (.obj ms)
  | .arr (type :: rest) => do ofType? (← type.asString?) (.arr rest)
  | _ => none

end Chart

end QueryDesk.Report
