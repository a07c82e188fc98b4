import QueryDesk.Agent.Basic

/-!
# Rehearsals

An agent played without a server: the engine follows a script, the model gives replies laid out
beforehand, and every call that reaches the engine is written down.
-/

namespace QueryDesk

/-- A call that reached an engine; a statement comes with its task as it was at that moment. -/
inductive Call where
  | connect
  | disconnect
  | execute (status : TaskStatus) (priority : UInt8) (timeoutSeconds : UInt64) (sql : String)
  | count (status : TaskStatus) (sql : String)
deriving DecidableEq, Repr, Inhabited

namespace Call

/-- A call on one line. -/
def text : Call → String
  | connect => "connect"
  | disconnect => "disconnect"
  | execute status priority timeout sql =>
    "execute[" ++ status.name ++ ", p" ++ toString priority.toNat ++ ", " ++
      toString timeout.toNat ++ "s]: " ++ sql
  | count status sql => "count[" ++ status.name ++ "]: " ++ sql

end Call

/-- What a rehearsal holds: the calls so far, whether connections are refused, and the replies
the model has left. -/
structure Rehearsal where
  calls : List Call
  refuses : Bool
  replies : List (Option String)
deriving Repr, Inhabited

namespace Rehearsal

def note (call : Call) : StateM Rehearsal Unit :=
  modify fun w => { w with calls := w.calls ++ [call] }

/-- The model's next reply; it fails where the script says so and once it has none left. -/
def reply (_ : ModelRequest) : StateM Rehearsal ModelAnswer := do
  let w ← get
  set { w with replies := w.replies.drop 1 }
  match w.replies.head?.join with
  | some text => return .ok text
  | none => return .error (.model (.request "scripted failure"))

end Rehearsal

/-- What an engine does in a rehearsal. -/
structure Script where
  kind : EngineKind
  /-- Statements with this text in them fail. -/
  failOn : Option String
  columns : List String
  rows : List Row
  count : Nat

namespace Script

def outcome (s : Script) (sql task : String) : Outcome :=
  if s.failOn.any (Text.contains sql) then .failed (some task) "scripted failure" 0.0
  else .completed (some task) s.columns s.rows 0.0

def backend (s : Script) : Backend (StateM Rehearsal) where
  kind := s.kind
  connect := do
    Rehearsal.note .connect
    if (← get).refuses then return .error (.connection "refused") else return .ok ()
  disconnect := Rehearsal.note .disconnect
  execute sql t := do
    Rehearsal.note (.execute t.status t.config.priority t.config.timeoutSeconds sql)
    return s.outcome sql t.config.id
  count sql t := do
    Rehearsal.note (.count t.status sql)
    return s.count
  status := return ⟨s.kind, true, .degraded "scripted", [("scripted", .bool true)]⟩

end Script

/-- A clock that stands still and gives every task one identity. -/
def Clock.still {m : Type → Type} [Monad m] (stamp : Stamp) : Clock m :=
  ⟨pure stamp.createdAt, pure 0.0, pure stamp⟩

end QueryDesk
