import QueryDesk.Sql.Generator
import QueryDesk.Task.Cluster
import QueryDesk.Task.Cost
import QueryDesk.Task.Status

/-!
# Tasks

An executable unit of work: a query with its statements, the engine that runs it, the resources
it is given and its status.  Building a task checks the priority first and generates the
statements second.
-/

namespace QueryDesk

/-- How often a task may be tried again. -/
structure RetryPolicy where
  maxRetries : UInt32
  delaySeconds : UInt64
deriving DecidableEq, Repr, Inhabited

namespace RetryPolicy

/-- No retries. -/
def default : RetryPolicy := ⟨0, 60⟩

def toJson (r : RetryPolicy) : Json :=
  .obj [("max_retries", .ofNat r.maxRetries.toNat), ("delay_secs", .ofNat r.delaySeconds.toNat)]

def ofJson? (j : Json) : Option RetryPolicy := do
  let s ← j.slots? ["max_retries", "delay_secs"]
  return {
    maxRetries := ← (Json.slot s 0).required Json.uint32?
    delaySeconds := ← (Json.slot s 1).required Json.asWord? }

end RetryPolicy

/-- The identity of a new task and the time it was made. -/
structure Stamp where
  id : String
  createdAt : String
deriving DecidableEq, Repr, Inhabited

/-- How a task is to be run. -/
structure TaskConfig where
  id : String
  type : TaskType
  priority : UInt8
  timeoutSeconds : UInt64
  retry : RetryPolicy
deriving DecidableEq, Repr, Inhabited

namespace TaskConfig

/-- A configuration, if its priority lies between 1 and 5. -/
def make (id : String) (type : TaskType) (priority : UInt8) (timeoutSeconds : UInt64)
    (retry : RetryPolicy) : Except TaskFault TaskConfig :=
  if 1 ≤ priority ∧ priority ≤ 5 then .ok ⟨id, type, priority, timeoutSeconds, retry⟩
  else .error (.invalidPriority priority.toNat)

def toJson (c : TaskConfig) : Json :=
  .obj [("id", .str c.id), ("task_type", c.type.toJson), ("priority", .ofNat c.priority.toNat),
    ("timeout_secs", .ofNat c.timeoutSeconds.toNat), ("retry", c.retry.toJson)]

end TaskConfig

/-- The engine of a task and its cluster. -/
structure EngineDescriptor where
  kind : EngineKind
  cluster : Json.Members
deriving Inhabited

namespace EngineDescriptor

def toJson (d : EngineDescriptor) : Json :=
  .obj [("kind", d.kind.toJson), ("cluster", .obj d.cluster)]

def ofJson? (j : Json) : Option EngineDescriptor := do
  let s ← j.slots? ["kind", "cluster"]
  return {
    kind := ← (Json.slot s 0).required EngineKind.ofJson?
    cluster := ← (Json.slot s 1).required Json.asObject? }

end EngineDescriptor

/-- A unit of work. -/
structure Task where
  config : TaskConfig
  query : Query
  engine : EngineDescriptor
  resources : Resources Float
  sql : SqlBundle
  createdAt : String
  status : TaskStatus

namespace Task

/-- Moves the task to a status that may follow its own. -/
def transition (t : Task) (next : TaskStatus) : Except TaskFault Task :=
  if next ∈ t.status.next then .ok { t with status := next }
  else .error (.invalidTransition t.config.id t.status.name next.name)

/-- Tries to move the task; a refused status leaves it as it is. -/
def attempt (t : Task) (next : TaskStatus) : Option TaskFault × Task :=
  match t.transition next with
  | .ok t' => (none, t')
  | .error f => (some f, t)

/-- Moves the task through several statuses, past those that are refused. -/
def run (t : Task) (statuses : List TaskStatus) : Task :=
  statuses.foldl (fun t next => (t.attempt next).2) t

/-- The JSON form without the query and the time it was made. -/
def summary (t : Task) : Json :=
  .obj [("config", t.config.toJson), ("backend", t.engine.toJson),
    ("resources", t.resources.toJson), ("sql", t.sql.toJson), ("status", t.status.toJson)]

def estimate (t : Task) : Cost.Estimate :=
  Cost.estimate t.query t.engine.kind t.resources

end Task

/-- What tasks are built with. -/
structure TaskBuilder where
  generator : Sql.Generator
  clusters : List (EngineKind × Json.Members)
  retry : RetryPolicy

namespace TaskBuilder

/-- A builder with the cluster templates. -/
def ofGenerator (g : Sql.Generator) : TaskBuilder := ⟨g, [], .default⟩

/-- The builder with an engine's settings laid over its template. -/
def withSettings (b : TaskBuilder) (kind : EngineKind) (s : EngineSettings) : TaskBuilder :=
  { b with clusters := (kind, Cluster.describe kind s) :: b.clusters }

/-- A builder with the settings of every engine. -/
def ofSettings (s : Settings) (g : Sql.Generator) : TaskBuilder :=
  EngineKind.all.foldl (fun b kind => b.withSettings kind (s.engine kind)) (.ofGenerator g)

def cluster (b : TaskBuilder) (kind : EngineKind) : Json.Members :=
  match b.clusters.find? (·.1 == kind) with
  | some (_, ms) => ms
  | none => Cluster.template kind

def build (b : TaskBuilder) (stamp : Stamp) (q : Query) (kind : EngineKind) (priority : UInt8)
    (timeoutSeconds : UInt64) : Except Fault Task := do
  let config ← (TaskConfig.make stamp.id (.ofIntent q.intent.intent) priority timeoutSeconds
    b.retry).mapError .task
  let sql ← (b.generator.generate q kind.dialect).mapError .sql
  return {
    config := config
    query := q
    engine := ⟨kind, b.cluster kind⟩
    resources := Cost.resources q
    sql := sql
    createdAt := stamp.createdAt
    status := .pending }

end TaskBuilder

end QueryDesk
