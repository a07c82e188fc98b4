import QueryDesk.Engine.Hive.Output
import QueryDesk.Engine.Service
import QueryDesk.Engine.Statement
import QueryDesk.Settings.Basic

/-!
# Hive

A statement runs as a job whose output is written to a directory of the task's own.  The job is
polled until it has succeeded, failed or been killed, and the output is then read.
-/

namespace QueryDesk.Hive

open Json (Unread slot)
open Web (Request Reply Exchange Content serviceRoot)

def root (e : EngineSettings) : String := serviceRoot e.url

/-- The address that output is read from: the server's own unless another is configured. -/
def filesRoot (e : EngineSettings) : String :=
  match e.webhdfsUrl with
  | some url => serviceRoot url
  | none => root e

/-- The user that requests are made for. -/
def user (e : EngineSettings) : String := e.username.getD "hive"

/-- The field that names the user. -/
def userField (e : EngineSettings) : String × String := ("user.name", user e)

def statusDirectory (e : EngineSettings) (task : String) : String :=
  serviceRoot (e.statusDir.getD "/tmp/quarry") ++ "/" ++ task

/-- The script that runs a statement with a line of column names, in the configured database. -/
def script (e : EngineSettings) (sql : String) : String :=
  "set hive.cli.print.header=true;\n" ++
    (match e.database with
      | some database => "use " ++ database ++ ";\n"
      | none => "") ++
    bareStatement sql ++ ";"

/-- The number given to a submitted job. -/
def readSubmitted? (u : Unread) : Option String := do
  let s ← u.slots? ["id"]
  (slot s 0).required Unread.string?

/-- What the server reports of a job. -/
structure Job where
  state : String
  failure : Option String
  exitValue : Option Int64
deriving DecidableEq, Repr, Inhabited

/-- The state of a job and why it failed. -/
def readState? (u : Unread) : Option (String × Option String) := do
  let s ← u.slots? ["state", "failureInfo"]
  return (← (slot s 0).required Unread.string?, ← (slot s 1).nullable Unread.string?)

def Job.read? (u : Unread) : Option Job := do
  let s ← u.slots? ["status", "exitValue"]
  let (state, failure) ← (slot s 0).required readState?
  return {
    state := state
    failure := failure
    exitValue := ← (slot s 1).nullable (Unread.whole? Json.int64?) }

def connect (e : EngineSettings) (linked : Bool) : Exchange (Except Fault Unit × Bool) := do
  let reply ← Exchange.send
    ((Request.get (root e ++ "/templeton/v1/status")).withQuery [userField e])
  match reply.accept "WebHCat status" with
  | .error f =>
    return (.error (.connection
      ("WebHCat at " ++ root e ++ " unreachable: " ++ f.message)), linked)
  | .ok _ =>
    match reply.decode "WebHCat status" "WebHCat status" Unread.value? with
    | .error f => return (.error f, linked)
    | .ok body =>
      if (body.get? "status").bind Json.asString? = some "ok" then return (.ok (), true)
      else return (.error (.connection ("WebHCat reported " ++ body.compact)), linked)

/-- The status of the connection; the server is not asked. -/
def status (e : EngineSettings) (linked : Bool) (running : Nat) : Exchange EngineStatus :=
  .done ⟨.hive, linked, if linked then .healthy else .unhealthy "not connected",
    [("url", .str (root e)), ("webhdfs_url", .str (filesRoot e)), ("user", .str (user e)),
      ("running_jobs", .ofNat running)]⟩

/-- What a run waits for, in each case for the output in a directory. -/
inductive Phase where
  | submitting (directory : String)
  | polling (directory job : String)
  | reading

/-- The request that submits a statement for a task. -/
def submitRequest (e : EngineSettings) (directory sql : String) : Request :=
  .post (root e ++ "/templeton/v1/hive")
    (.form [userField e, ("execute", script e sql), ("statusdir", directory)])

def jobUrl (e : EngineSettings) (job : String) : String :=
  root e ++ "/templeton/v1/jobs/" ++ job

def jobRequest (e : EngineSettings) (job : String) : Request :=
  (Request.get (jobUrl e job)).withQuery [userField e]

/-- Asks for the output in a directory. -/
def outputRequest (e : EngineSettings) (directory : String) : Request :=
  (Request.get (filesRoot e ++ "/webhdfs/v1" ++ directory ++ "/stdout")).withQuery
    [("op", "OPEN"), userField e]

/-- Why a job that has ended has no output, if so. -/
def jobFault? (job : String) (exitValue : Option Int64) : Option Fault :=
  match exitValue with
  | some code =>
    if code = 0 then none
    else some (.execution (.failed
      ("Hive job " ++ job ++ " exited with " ++ toString code.toInt)))
  | none => none

/-- The move after a report on a job. -/
def advance (e : EngineSettings) (directory job : String) (j : Job) : Move Phase String :=
  if j.state = "SUCCEEDED" then
    match jobFault? job j.exitValue with
    | some f => .finish .release (.error f)
    | none => .ask .keep (outputRequest e directory) .reading
  else if j.state = "FAILED" then
    .finish .release (.error (.execution
      (.failed (j.failure.getD ("Hive job " ++ job ++ " failed")))))
  else if j.state = "KILLED" then
    .finish .release (.error (.execution (.cancelled ("Hive job " ++ job))))
  else .ask .keep ((jobRequest e job).after .poll) (.polling directory job)

/-- The result in the reply to the request for the output. -/
def outputOf (reply : Reply) : Except Fault ResultSet := do
  match ← reply.accept "WebHDFS read" with
  | .ok text => return resultOf text.toList
  | .error detail => throw (.execution (.unexpected ("Failed to read job output: " ++ detail)))

/-- The move that a reply leads to. -/
def resume (e : EngineSettings) (phase : Phase) (reply : Reply) : Move Phase String :=
  match phase with
  | .submitting directory =>
    match reply.decode "WebHCat submit" "WebHCat submit" readSubmitted? with
    | .ok job => .ask (.hold job) (jobRequest e job) (.polling directory job)
    | .error f => .finish .keep (.error f)
  | .polling directory job =>
    match reply.decode "WebHCat job status" "WebHCat job" Job.read? with
    | .ok j => advance e directory job j
    | .error f => .finish .release (.error f)
  | .reading => .finish .release (outputOf reply)

def killRequest (e : EngineSettings) (job : String) : Request :=
  (Request.delete (jobUrl e job)).withQuery [userField e]

/-- Hive as a service; its jobs are known by the numbers the server gives them. -/
def service (e : EngineSettings) : Service Bool Phase String where
  kind := .hive
  unlinked := false
  connect _ := connect e
  disconnect _ := .done false
  status := status e
  submit linked task sql :=
    if linked then
      let directory := statusDirectory e task
      some (.ask .keep (submitRequest e directory sql) (.submitting directory))
    else none
  resume := resume e
  kill := killRequest e

end QueryDesk.Hive
