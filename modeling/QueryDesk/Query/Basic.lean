import QueryDesk.Calendar.DateText
import QueryDesk.Intent
import QueryDesk.Source

/-!
# Analyzed queries

The structured form of a request: ordered conditions, an optional aggregation, an optional time
window and how the answer is to be presented.
-/

namespace QueryDesk

/-- How a condition compares. -/
inductive Operator where
  | eq | gt | lt | ge | le | like | isIn | between
deriving DecidableEq, Repr, Inhabited

namespace Operator

def name : Operator → String
  | eq => "="
  | gt => ">"
  | lt => "<"
  | ge => ">="
  | le => "<="
  | like => "like"
  | isIn => "in"
  | between => "between"

def sql : Operator → String
  | eq => "="
  | gt => ">"
  | lt => "<"
  | ge => ">="
  | le => "<="
  | like => "LIKE"
  | isIn => "IN"
  | between => "BETWEEN"

def all : List Operator := [eq, gt, lt, ge, le, like, isIn, between]

def ofName? (s : String) : Option Operator :=
  all.find? (·.name == s)

end Operator

/-- A scalar that a field is compared with. -/
inductive Literal where
  | bool (b : Bool)
  | int (n : Int64)
  | float (x : Float)
  | text (s : String)
deriving Repr, Inhabited

/-- What a field is compared with. -/
inductive Operand where
  | range (low high : Literal)
  | list (items : List Literal)
  | single (value : Literal)
deriving Repr, Inhabited

/-- How a condition is joined to the one before it. -/
inductive Join where
  | and | or
deriving DecidableEq, Repr, Inhabited

namespace Join

def name : Join → String
  | and => "AND"
  | or => "OR"

def ofName? (s : String) : Option Join :=
  [and, or].find? (·.name == s)

end Join

/-- One predicate on a field. -/
structure Condition where
  field : String
  operator : Operator
  value : Operand
  join : Join
deriving Repr, Inhabited

/-- One aggregate column. -/
structure Aggregate where
  label : String
  function : String
deriving DecidableEq, Repr, Inhabited

/-- Grouping fields and aggregate columns. -/
structure Aggregation where
  groupBy : List String
  aggregates : List Aggregate
deriving DecidableEq, Repr, Inhabited

namespace Aggregation

def empty : Aggregation := ⟨[], []⟩

/-- Adds a grouping field; a repeated one changes nothing. -/
def withGroupBy (a : Aggregation) (field : String) : Aggregation :=
  if field ∈ a.groupBy then a else { a with groupBy := a.groupBy ++ [field] }

/-- An aggregate put in the place of the one with its label, or at the end. -/
def putAggregate (x : Aggregate) : List Aggregate → List Aggregate
  | [] => [x]
  | y :: rest => if y.label = x.label then x :: rest else y :: putAggregate x rest

/-- Adds an aggregate column; one with the same label is replaced in place. -/
def withAggregate (a : Aggregation) (label function : String) : Aggregation :=
  { a with aggregates := putAggregate ⟨label, function⟩ a.aggregates }

/-- Whether there is nothing to group or aggregate. -/
def isEmpty (a : Aggregation) : Bool :=
  a.groupBy.isEmpty && a.aggregates.isEmpty

end Aggregation

/-- A filter on the date column. -/
inductive Window where
  /-- Inclusive bounds, either of which may be open. -/
  | absolute (start stop : Option Date)
  /-- The last days up to and including today. -/
  | relative (days : UInt32)
deriving DecidableEq

namespace Window

def day (d : Date) : Window := .absolute (some d) (some d)

end Window

/-- The shape an answer is presented in. -/
inductive Format where
  | json | csv | table | chart
deriving DecidableEq, Repr, Inhabited

namespace Format

def name : Format → String
  | json => "json"
  | csv => "csv"
  | table => "table"
  | chart => "chart"

def all : List Format := [json, csv, table, chart]

def ofName? (s : String) : Option Format :=
  all.find? (·.name == s)

/-- The format of a name in any ASCII case. -/
def ofAnyCase? (s : String) : Option Format :=
  all.find? (Text.sameIgnoringAsciiCase ·.name s)

/-- The format of a name in any ASCII case between blanks; JSON for an unknown name. -/
def ofNameOrJson (s : String) : Format :=
  (ofAnyCase? (Text.trimmed s)).getD .json

end Format

/-- A sort direction. -/
inductive SortDirection where
  | asc | desc
deriving DecidableEq, Repr, Inhabited

namespace SortDirection

def name : SortDirection → String
  | asc => "asc"
  | desc => "desc"

def sql : SortDirection → String
  | asc => "ASC"
  | desc => "DESC"

def ofName? (s : String) : Option SortDirection :=
  [asc, desc].find? (·.name == s)

end SortDirection

/-- How the answer is to be shaped. -/
structure Presentation where
  format : Format
  limit : Option UInt64
  sortBy : Option String
  direction : SortDirection
deriving DecidableEq, Repr, Inhabited

/-- The presentation that asks for nothing special. -/
def Presentation.default : Presentation := ⟨.json, none, none, .desc⟩

/-- What the language model understood; `fallback` says that it could not be asked. -/
structure Analysis where
  dataEntity : Option String
  queryType : Option String
  conditions : Option String
  aggregations : Option String
  timeRange : Option String
  outputRequirements : Option String
  description : Option String
  fallback : Bool
deriving DecidableEq, Repr, Inhabited

def Analysis.empty : Analysis := ⟨none, none, none, none, none, none, none, false⟩

/-- A request in structured form. -/
structure Query where
  originalText : String
  intent : IntentResult
  source : SourceRef
  conditions : List Condition
  aggregation : Option Aggregation
  window : Option Window
  output : Presentation
  analysis : Analysis
  description : String
  confidence : Float

end QueryDesk
