import QueryDesk.Engine.Spark.Session

/-!
# Spark statements

A statement is submitted to a session and polled until it has left the states in which it still
runs; its output then holds the schema and the rows.
-/

namespace QueryDesk.Spark

open Json (Unread slot)
open Web (Request Reply Exchange Content)

/-- The output of a finished statement. -/
structure Output where
  status : String
  data : Option Json
  errorName : Option String
  errorValue : Option String
deriving Inhabited

def Output.read? (u : Unread) : Option Output := do
  let s ← u.slots? ["status", "data", "ename", "evalue"]
  return {
    status := ← (slot s 0).required Unread.string?
    data := ← (slot s 1).nullable Unread.value?
    errorName := ← (slot s 2).nullable Unread.string?
    errorValue := ← (slot s 3).nullable Unread.string? }

/-- A statement as the server reports it. -/
structure Statement where
  id : UInt64
  state : String
  output : Option Output
deriving Inhabited

def Statement.read? (u : Unread) : Option Statement := do
  let s ← u.slots? ["id", "state", "output"]
  return {
    id := ← (slot s 0).required (Unread.whole? Json.asWord?)
    state := ← (slot s 1).required Unread.string?
    output := ← (slot s 2).nullable Output.read? }

/-- The states in which a statement still runs. -/
def isRunning (state : String) : Bool :=
  ["waiting", "running", "cancelling"].contains state

def schemaColumns (payload : Json) : List String :=
  match ((payload.get? "schema").bind (·.get? "fields")).bind Json.asArray? with
  | some fields => fields.filterMap fun f => (f.get? "name").bind Json.asString?
  | none => []

/-- The rows of a payload under its columns. -/
def payloadRows (columns : List String) (payload : Json) : List Row :=
  match (payload.get? "data").bind Json.asArray? with
  | some rows => rows.map fun row => Row.zip columns (row.asArray?.getD [])
  | none => []

def resultOfPayload (payload : Json) : ResultSet :=
  ⟨schemaColumns payload, payloadRows (schemaColumns payload) payload⟩

def resultOfOutput (o : Output) : Except Fault ResultSet :=
  if o.status ≠ "ok" then
    .error (.execution (.failed
      (o.errorName.getD "Error" ++ ": " ++ o.errorValue.getD "")))
  else match o.data.bind (·.get? "application/json") with
    | some payload => .ok (resultOfPayload payload)
    | none =>
      .error (.execution (.unexpected "statement output has no application/json payload"))

/-- The result of a statement that no longer runs. -/
def resultOf (t : Statement) : Except Fault ResultSet :=
  if t.state = "cancelled" then
    .error (.execution (.cancelled ("Livy statement " ++ toString t.id.toNat)))
  else match t.output with
    | some o => resultOfOutput o
    | none =>
      .error (.execution (.unexpected ("statement " ++ toString t.id.toNat ++
        " finished in state " ++ t.state ++ " without output")))

/-- A statement on the server: its session and its number. -/
structure Handle where
  session : UInt64
  statement : UInt64
deriving DecidableEq, Repr, Inhabited

def statementUrl (e : EngineSettings) (h : Handle) : String :=
  sessionUrl e h.session ++ "/statements/" ++ toString h.statement.toNat

/-- What a run waits for. -/
inductive Phase where
  | submitting (session : UInt64)
  | polling (session : UInt64)

def submitRequest (e : EngineSettings) (session : UInt64) (sql : String) : Request :=
  .post (sessionUrl e session ++ "/statements")
    (.json (.obj [("code", .str sql), ("kind", .str "sql")]))

/-- The move after a report on a statement, which is in the table from then on while it runs. -/
def advance (e : EngineSettings) (session : UInt64) (entry : Entry Handle) (t : Statement) :
    Move Phase Handle :=
  if isRunning t.state then
    .ask entry ((Request.get (statementUrl e ⟨session, t.id⟩)).after .poll) (.polling session)
  else .finish .release (resultOf t)

/-- The move that a reply leads to. -/
def resume (e : EngineSettings) (phase : Phase) (reply : Reply) : Move Phase Handle :=
  match phase with
  | .submitting session =>
    match reply.decode "Livy statement submit" "Livy statement" Statement.read? with
    | .ok t => advance e session (.hold ⟨session, t.id⟩) t
    | .error f => .finish .keep (.error f)
  | .polling session =>
    match reply.decode "Livy statement status" "Livy statement" Statement.read? with
    | .ok t => advance e session .keep t
    | .error f => .finish .release (.error f)

def killRequest (e : EngineSettings) (h : Handle) : Request :=
  .post (statementUrl e h ++ "/cancel") .empty

/-- Spark as a service; its link is the session held. -/
def service (e : EngineSettings) : Service (Option UInt64) Phase Handle where
  kind := .spark
  unlinked := none
  connect := connect e
  disconnect := disconnect e
  status := status e
  submit held _ sql :=
    held.map fun session => .ask .keep (submitRequest e session sql) (.submitting session)
  resume := resume e
  kill := killRequest e

end QueryDesk.Spark
