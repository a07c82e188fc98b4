import QueryDesk.Engine.Presto.Page
import QueryDesk.Engine.Service
import QueryDesk.Engine.Statement
import QueryDesk.Settings.Basic

/-!
# Presto

A statement is posted to the coordinator and its pages are followed until one names no next page.
The address of the page to come stands for the running statement.
-/

namespace QueryDesk.Presto

open Web (Request Reply Exchange Content serviceRoot)

def root (e : EngineSettings) : String := serviceRoot e.url

/-- A request made for the configured user, catalog and schema. -/
def identified (e : EngineSettings) (r : Request) : Request :=
  r.withHeaders ([("X-Trino-User", e.username.getD "quarry")] ++
    (e.catalog.map fun c => ("X-Trino-Catalog", c)).toList ++
    (e.schema.map fun s => ("X-Trino-Schema", s)).toList)

def info (e : EngineSettings) : Exchange (Except Fault Json) := do
  let reply ← Exchange.send (.get (root e ++ "/v1/info"))
  return reply.decode "Trino info" "Trino info" Json.Unread.value?

def isStarting (info : Json) : Bool :=
  (info.get? "starting").bind Json.asBool? == some true

def connect (e : EngineSettings) (linked : Bool) : Exchange (Except Fault Unit × Bool) := do
  match ← info e with
  | .ok i =>
    if isStarting i then
      return (.error (.connection "Trino coordinator is still starting"), linked)
    else return (.ok (), true)
  | .error f =>
    return (.error (.connection
      ("Trino at " ++ root e ++ " unreachable: " ++ f.message)), linked)

/-- The version the coordinator reports, or null. -/
def version (info : Json) : Json :=
  ((info.get? "nodeVersion").bind (·.get? "version")).getD .null

def status (e : EngineSettings) (linked : Bool) (running : Nat) : Exchange EngineStatus := do
  let url : Json := .str (root e)
  match ← info e with
  | .ok i =>
    let health := if isStarting i then .degraded "coordinator starting" else Health.healthy
    return ⟨.presto, linked, health,
      [("url", url), ("version", version i), ("running_queries", .ofNat running)]⟩
  | .error f =>
    return ⟨.presto, linked, .unhealthy f.message,
      [("url", url), ("running_queries", .ofNat running)]⟩

/-- What a run waits for: the first page, or the next one with the result so far. -/
inductive Phase where
  | submitting
  | following (soFar : ResultSet)

def submitRequest (e : EngineSettings) (sql : String) : Request :=
  identified e (.post (root e ++ "/v1/statement") (.text (bareStatement sql)))

/-- The request for a page; the poll interval passes first unless the page before held data. -/
def pageRequest (e : EngineSettings) (url : String) (hadData : Bool) : Request :=
  (identified e (.get url)).after (if hadData then .none else .poll)

def advance (e : EngineSettings) (soFar : ResultSet) (p : Page) : Move Phase String :=
  match p.error with
  | some error => .finish .release (.error error.fault)
  | none =>
    let soFar := p.addTo soFar
    match p.next with
    | some url => .ask (.hold url) (pageRequest e url p.data.isSome) (.following soFar)
    | none => .finish .release (.ok soFar)

/-- The move that a reply leads to. -/
def resume (e : EngineSettings) (phase : Phase) (reply : Reply) : Move Phase String :=
  match phase with
  | .submitting =>
    match reply.decode "Trino submit" "Trino statement" Page.read? with
    | .ok p => advance e ⟨[], []⟩ p
    | .error f => .finish .keep (.error f)
  | .following soFar =>
    match reply.decode "Trino poll" "Trino statement" Page.read? with
    | .ok p => advance e soFar p
    | .error f => .finish .release (.error f)

/-- Presto as a service; its jobs are known by the address of their next page. -/
def service (e : EngineSettings) : Service Bool Phase String where
  kind := .presto
  unlinked := false
  connect _ := connect e
  disconnect _ := .done false
  status := status e
  submit linked _ sql :=
    if linked then some (.ask .keep (submitRequest e sql) .submitting) else none
  resume := resume e
  kill url := identified e (.delete url)

end QueryDesk.Presto
