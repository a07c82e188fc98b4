import QueryDesk.Fault
import QueryDesk.Intent

/-!
# Task status

The life of a task: pending, running, and one of three ends.
-/

namespace QueryDesk

/-- The kind of work a task does. -/
inductive TaskType where
  | query | analysis | aggregation
deriving DecidableEq, Repr, Inhabited

namespace TaskType

def name : TaskType → String
  | query => "query"
  | analysis => "analysis"
  | aggregation => "aggregation"

/-- The work that an intent asks for. -/
def ofIntent : Intent → TaskType
  | .statistics | .filter | .ranking | .unknown => query
  | .analysis | .trend | .comparison | .distribution | .correlation => analysis
  | .aggregation => aggregation

def toJson (t : TaskType) : Json := .str t.name

def ofJson? : Json → Option TaskType :=
  Json.choice? fun s => [query, analysis, aggregation].find? (·.name == s)

end TaskType

/-- Where a task stands. -/
inductive TaskStatus where
  | pending | running | completed | failed | cancelled
deriving DecidableEq, Repr, Inhabited

namespace TaskStatus

def name : TaskStatus → String
  | pending => "pending"
  | running => "running"
  | completed => "completed"
  | failed => "failed"
  | cancelled => "cancelled"

def all : List TaskStatus := [pending, running, completed, failed, cancelled]

def next : TaskStatus → List TaskStatus
  | pending => [running, cancelled]
  | running => [completed, failed, cancelled]
  | completed | failed | cancelled => []

def isTerminal : TaskStatus → Bool
  | completed | failed | cancelled => true
  | pending | running => false

def toJson (s : TaskStatus) : Json := .str s.name

def ofJson? : Json → Option TaskStatus :=
  Json.choice? fun s => all.find? (·.name == s)

end TaskStatus

end QueryDesk
