import QueryDesk.Agent.Backend
import QueryDesk.Agent.Options
import QueryDesk.Report.Envelope
import QueryDesk.Understanding.Compiler

/-!
# Agents

An agent answers requests end to end on one engine: a request is compiled, made a task, run and
presented.  What goes wrong at any stage is told in the envelope; only an abort leaves no envelope,
and of a batch it leaves none at all.  No statement is run unless the agent is connected.
-/

namespace QueryDesk

open Report (Envelope Metadata)

/-- The time and the names that an agent takes from its surroundings. -/
structure Clock (m : Type → Type) where
  /-- The present time as text. -/
  now : m String
  /-- Seconds that have passed since some fixed moment. -/
  seconds : m Float
  stamp : m Stamp

/-- An agent over an engine and a language model. -/
structure Agent (m : Type → Type) where
  backend : Backend m
  /-- Asks the language model. -/
  ask : ModelRequest → m ModelAnswer
  clock : Clock m
  compiler : Compiler
  tasks : TaskBuilder
  /-- The format of an answer when neither the caller nor the request names one. -/
  defaultFormat : Format
  /-- The options of previews, estimates and batches. -/
  defaults : QueryOptions
  /-- The engines an agent could have been made for. -/
  supported : List EngineKind
  connected : Bool

/-- What a request is expected to cost. -/
structure CostReport where
  estimate : Cost.Estimate
  complexity : Float
  /-- The number of rows behind the request, when connected. -/
  rowCount : Option Nat
  sql : String

def CostReport.toJson (r : CostReport) : Json :=
  .obj [("estimate", r.estimate.toJson), ("complexity", .ofFloat r.complexity),
    ("estimated_row_count", .ofOption .ofNat r.rowCount), ("sql", .str r.sql)]

/-- The state of an agent and of its engine. -/
structure AgentStatus where
  connected : Bool
  backend : EngineKind
  timestamp : String
  engine : EngineStatus

def AgentStatus.toJson (s : AgentStatus) : Json :=
  .obj [("connected", .bool s.connected), ("backend", s.backend.toJson),
    ("timestamp", .str s.timestamp), ("backend_status", s.engine.toJson)]

namespace Agent

variable {m : Type → Type} [Monad m] (a : Agent m)

/-- The engine that requests are run on. -/
def kind : EngineKind := a.backend.kind

/-- Connects the engine; a failure leaves the agent as it was. -/
def connect : m (Except Fault Unit × Agent m) := do
  match ← a.backend.connect with
  | .ok () => return (.ok (), { a with connected := true })
  | .error f => return (.error f, a)

/-- Disconnects the engine if the agent is connected. -/
def disconnect : m (Agent m) := do
  if a.connected then
    a.backend.disconnect
    return { a with connected := false }
  else return a

/-- The query that a request stands for. -/
def compile (text : String) : m (Except Halt Query) := do
  let answer ← a.ask (a.compiler.request text)
  return a.compiler.compile text answer

def newTask (q : Query) (o : QueryOptions) : m (Except Fault Task) := do
  let stamp ← a.clock.stamp
  return a.tasks.build stamp q a.kind o.priority o.timeoutSeconds

/-- Runs a statement for a task, which is running meanwhile and then completed or failed. -/
def dispatch (t : Task) (sql : String) : m (Except Fault (Outcome × Task)) :=
  match t.transition .running with
  | .error f => return .error (.task f)
  | .ok t => do
    let o ← a.backend.execute sql t
    match t.transition (if o.success then .completed else .failed) with
    | .error f => return .error (.task f)
    | .ok t => return .ok (o, t)

/-- The format of an answer: the caller's, else the request's, else the agent's own. -/
def formatFor (wanted : Option Format) (q : Query) : Format :=
  wanted.getD (if q.output.format = .json then a.defaultFormat else q.output.format)

/-- What an answer tells about its query and task. -/
def queryInfo (q : Query) (t : Task) (totalTime : Float) : Json :=
  .obj [("original_query", .str q.originalText), ("analyzed_query", q.toJson),
    ("task_info", .obj [("task_id", .str t.config.id), ("task_type", .str t.config.type.name),
      ("status", .str t.status.name), ("backend", .str t.engine.kind.name),
      ("priority", .ofNat t.config.priority.toNat), ("sql", .str t.sql.sql),
      ("count_sql", .str t.sql.countSql), ("sample_sql", .str t.sql.sampleSql),
      ("resources", t.resources.toJson), ("created_at", .str t.createdAt)]),
    ("total_time", .ofFloat totalTime)]

/-- The answer of an agent that is not connected. -/
def refusal (format : Format) : m Envelope := do
  let now ← a.clock.now
  return .failed (a.kind.name ++ " backend is not connected") (.blank format now)

/-- The answer to a request that failed before it was run. -/
def failure (f : Fault) (format : Format) (started : Float) : m Envelope := do
  let now ← a.clock.now
  let ended ← a.clock.seconds
  return .failed f.message { Metadata.blank format now with executionTime := ended - started }

/-- The answer presented, cut to a page if one is wanted, with what is known of its task. -/
def present (o : Outcome) (q : Query) (t : Task) (format : Format) (opts : QueryOptions)
    (started : Float) : m Envelope := do
  let now ← a.clock.now
  let e := Envelope.ofOutcome now o q format
  let e := match opts.page with
    | some page => e.paginate page.toNat opts.pageSize.toNat
    | none => e
  if e.isSuccess then
    let ended ← a.clock.seconds
    return e.withQueryInfo (queryInfo q t (ended - started))
  else return e

/-- The answer of a connected agent, or what came before the run. -/
def answer (text : String) (format : Option Format) (opts : QueryOptions) (started : Float) :
    m (Except Halt Envelope) := do
  match ← a.compile text with
  | .error h => return .error h
  | .ok q =>
    match ← a.newTask q opts with
    | .error f => return .error (.fault f)
    | .ok t =>
      match ← a.dispatch t t.sql.sql with
      | .error f => return .error (.fault f)
      | .ok (o, t) => return .ok (← a.present o q t (a.formatFor format q) opts started)

/-- What work on an answer comes to: of a fault the answer tells, and an abort leaves none. -/
def conclude (format : Format) (started : Float) :
    Except Halt Envelope → m (Except Abort Envelope)
  | .ok e => return .ok e
  | .error (.fault f) => do return .ok (← a.failure f format started)
  | .error (.abort x) => return .error x

def query (text : String) (format : Option Format) (opts : QueryOptions) :
    m (Except Abort Envelope) := do
  let fallback := format.getD a.defaultFormat
  if a.connected then
    let started ← a.clock.seconds
    a.conclude fallback started (← a.answer text format opts started)
  else return .ok (← a.refusal fallback)

/-- The sample of a request, or what came before the run. -/
def sample (text : String) (size : UInt64) : m (Except Halt Envelope) := do
  match ← a.compile text with
  | .error h => return .error h
  | .ok q =>
    match ← a.newTask q a.defaults with
    | .error f => return .error (.fault f)
    | .ok t =>
      match { a.tasks.generator with sampleSize := size }.generate q a.kind.dialect with
      | .error f => return .error (.fault (.sql f))
      | .ok bundle =>
        match ← a.dispatch t bundle.sampleSql with
        | .error f => return .error (.fault f)
        | .ok (o, _) => return .ok (.ofOutcome (← a.clock.now) o q .table)

/-- Runs the sample statement of a request and shows it as a table. -/
def preview (text : String) (size : UInt64) : m (Except Abort Envelope) := do
  if a.connected then
    let started ← a.clock.seconds
    a.conclude .table started (← a.sample text size)
  else return .ok (← a.refusal .table)

/-- What a request is expected to cost; its rows are counted when connected. -/
def estimate (text : String) : m (Except Halt CostReport) := do
  match ← a.compile text with
  | .error h => return .error h
  | .ok q =>
    match ← a.newTask q a.defaults with
    | .error f => return .error (.fault f)
    | .ok t =>
      let rows ← if a.connected then some <$> a.backend.count t.sql.countSql t else pure none
      return .ok ⟨t.estimate, Cost.complexity q, rows, t.sql.sql⟩

def batchFrom (format : Option Format) (index : Nat) :
    List String → m (Except Abort (List Envelope))
  | [] => return .ok []
  | text :: rest => do
    match ← a.query text format a.defaults with
    | .error x => return .error x
    | .ok e =>
      let more ← batchFrom format (index + 1) rest
      return more.map (e.withBatchIndex index :: ·)

/-- Answers requests one after another; each answer carries its place, from 1 on.  The first abort
breaks the batch off, and the answers that were there are lost. -/
def batch (texts : List String) (format : Option Format) : m (Except Abort (List Envelope)) :=
  a.batchFrom format 1 texts

/-- The state of the agent and of its engine. -/
def status : m AgentStatus := do
  let now ← a.clock.now
  let engine ← a.backend.status
  return ⟨a.connected, a.kind, now, engine⟩

end Agent

end QueryDesk
