import QueryDesk.Engine.Service
import QueryDesk.Settings.Basic

/-!
# Spark sessions

Statements run inside a session, which is opened once and shared.  A new session is polled until
it is idle; it is given up when it reaches a final state or after 240 polls.
-/

namespace QueryDesk.Spark

open Json (Unread slot)
open Web (Request Reply Exchange Content serviceRoot)

/-- A session as the server reports it. -/
structure Session where
  id : UInt64
  state : String
deriving DecidableEq, Repr, Inhabited

def Session.read? (u : Unread) : Option Session := do
  let s ← u.slots? ["id", "state"]
  return {
    id := ← (slot s 0).required (Unread.whole? Json.asWord?)
    state := ← (slot s 1).required Unread.string? }

def root (e : EngineSettings) : String := serviceRoot e.url

def sessionUrl (e : EngineSettings) (id : UInt64) : String :=
  root e ++ "/sessions/" ++ toString id.toNat

/-- What a new session is asked to be. -/
def sessionContent (e : EngineSettings) (name : String) : Json :=
  .obj ([("kind", .str "sql"), ("name", .str ("quarry-" ++ name))] ++
    (e.queue.map fun q => ("queue", Json.str q)).toList ++
    (e.username.map fun u => ("proxyUser", Json.str u)).toList)

def createRequest (e : EngineSettings) (name : String) : Request :=
  .post (root e ++ "/sessions") (.json (sessionContent e name))

def fetchSession (e : EngineSettings) (id : UInt64) (paused : Bool) :
    Exchange (Except Fault Session) := do
  let request := Request.get (sessionUrl e id)
  let reply ← Exchange.send (request.after (if paused then .poll else .none))
  return reply.decode "Livy session status" "Livy session" Session.read?

/-- The states a session does not leave. -/
def isFinal (state : String) : Bool :=
  ["dead", "error", "killed", "shutting_down"].contains state

/-- The number of polls a new session is given. -/
def maxPolls : Nat := 240

/-- Polls a session until it is idle. -/
def awaitIdle (e : EngineSettings) (session : Session) : Nat → Exchange (Except Fault UInt64)
  | 0 => .done (if session.state = "idle" then .ok session.id else givenUp session)
  | polls + 1 =>
    if session.state = "idle" then .done (.ok session.id)
    else if isFinal session.state then .done (givenUp session)
    else (fetchSession e session.id true).bind fun fetched =>
      match fetched with
      | .ok session => awaitIdle e session polls
      | .error f => .done (.error f)
where
  /-- The fault of a session that did not become idle. -/
  givenUp (session : Session) : Except Fault UInt64 :=
    .error (.connection ("Livy session " ++ toString session.id.toNat ++
      " did not become idle (state " ++ session.state ++ ")"))

def openSession (e : EngineSettings) (name : String) : Exchange (Except Fault UInt64) := do
  let reply ← Exchange.send (createRequest e name)
  match reply.decode "Livy session create" "Livy session" Session.read? with
  | .ok session => awaitIdle e session maxPolls
  | .error f => return .error f

/-- Whether a session is there and idle. -/
def isIdle (fetched : Except Fault Session) : Bool :=
  match fetched with
  | .ok session => session.state == "idle"
  | .error _ => false

/-- Opens a session for want of a usable one; the one held so far is kept on failure. -/
def replaceSession (e : EngineSettings) (name : String) (held : Option UInt64) :
    Exchange (Except Fault Unit × Option UInt64) := do
  match ← openSession e name with
  | .ok id => return (.ok (), some id)
  | .error f =>
    return (.error (.connection
      ("Could not open Livy session at " ++ root e ++ ": " ++ f.message)), held)

/-- Connects: a held session is used again while it is idle. -/
def connect (e : EngineSettings) (name : String) (held : Option UInt64) :
    Exchange (Except Fault Unit × Option UInt64) := do
  match held with
  | none => replaceSession e name held
  | some id =>
    if isIdle (← fetchSession e id false) then return (.ok (), held)
    else replaceSession e name held

def disconnect (e : EngineSettings) (held : Option UInt64) : Exchange (Option UInt64) := do
  match held with
  | none => return none
  | some id =>
    let _ ← Exchange.send (.delete (sessionUrl e id))
    return none

/-- The health that a session's state stands for. -/
def healthOf (state : String) : Health :=
  if state = "idle" ∨ state = "busy" then .healthy
  else if state = "starting" then .degraded "session starting"
  else .unhealthy ("session state " ++ state)

def status (e : EngineSettings) (held : Option UInt64) (running : Nat) :
    Exchange EngineStatus := do
  let details : Json.Members :=
    [("url", .str (root e)), ("running_statements", .ofNat running)]
  match held with
  | none => return ⟨.spark, false, .unhealthy "no Livy session", details⟩
  | some id =>
    let details := details ++ [("session_id", .ofNat id.toNat)]
    match ← fetchSession e id false with
    | .ok session =>
      return ⟨.spark, true, healthOf session.state,
        details ++ [("session_state", .str session.state)]⟩
    | .error f => return ⟨.spark, true, .unhealthy f.message, details⟩

end QueryDesk.Spark
