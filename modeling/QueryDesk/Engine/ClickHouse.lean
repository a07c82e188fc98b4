import QueryDesk.Engine.Service
import QueryDesk.Engine.Statement
import QueryDesk.Settings.Basic

/-!
# ClickHouse

One request a statement, answered with the whole result.  A statement carries the task's name,
by which the server can be told to stop it.
-/

namespace QueryDesk.ClickHouse

open Json (Unread slot)
open Web (Request Reply Exchange Content serviceRoot)

/-- The reply to a statement. -/
structure Answer where
  columns : List String
  rows : List Row
deriving Inhabited

def Answer.read? (u : Unread) : Option Answer := do
  let s ← u.slots? ["meta", "data"]
  return {
    columns := ← (slot s 0).withDefault [] (Unread.list? readColumn?)
    rows := ← (slot s 1).withDefault [] (Unread.list? (Unread.whole? Json.asObject?)) }

def root (e : EngineSettings) : String := serviceRoot e.url

/-- A request in the configured database, made for the configured user. -/
def authorized (e : EngineSettings) (r : Request) : Request :=
  let r := match e.database with
    | some database => r.withQuery [("database", database)]
    | none => r
  match e.username with
  | some user => r.withCredentials (.login user e.password)
  | none => r

def statementText (sql : String) : String :=
  bareStatement sql ++ " FORMAT JSON"

/-- The request that runs a statement for a task. -/
def statementRequest (e : EngineSettings) (task sql : String) : Request :=
  authorized e
    ((Request.post (root e ++ "/") (.text (statementText sql))).withQuery [("query_id", task)])

/-- The result in the reply to a statement. -/
def resultOf (reply : Reply) : Except Fault ResultSet :=
  (reply.decode "ClickHouse query" "ClickHouse query" Answer.read?).map fun a =>
    ⟨a.columns, a.rows⟩

def killRequest (e : EngineSettings) (task : String) : Request :=
  authorized e (.post (root e ++ "/")
    (.text ("KILL QUERY WHERE query_id = '" ++ task ++ "'")))

def ping (e : EngineSettings) : Exchange (Except Fault Unit) := do
  let reply ← Exchange.send (.get (root e ++ "/ping"))
  return (reply.accept "ClickHouse ping").map fun _ => ()

def connect (e : EngineSettings) (linked : Bool) : Exchange (Except Fault Unit × Bool) := do
  match ← ping e with
  | .ok () => return (.ok (), true)
  | .error f =>
    return (.error (.connection
      ("ClickHouse at " ++ root e ++ " unreachable: " ++ f.message)), linked)

def status (e : EngineSettings) (linked : Bool) (running : Nat) : Exchange EngineStatus := do
  let health := match ← ping e with
    | .ok () => Health.healthy
    | .error f => .unhealthy f.message
  return ⟨.clickhouse, linked, health,
    [("url", .str (root e)), ("running_queries", .ofNat running)]⟩

/-- ClickHouse as a service; its jobs are known by the names of their tasks. -/
def service (e : EngineSettings) : Service Bool Unit String where
  kind := .clickhouse
  unlinked := false
  connect _ := connect e
  disconnect _ := .done false
  status := status e
  submit linked task sql :=
    if linked then some (.ask (.hold task) (statementRequest e task sql) ()) else none
  resume _ reply := .finish .release (resultOf reply)
  kill := killRequest e

end QueryDesk.ClickHouse
