import QueryDesk.Engine.Health
import QueryDesk.Engine.Jobs
import QueryDesk.Engine.ResultSet
import QueryDesk.Web.Exchange

/-!
# Services

How an engine is spoken to.  A statement runs in moves: every move waits for one reply, and may
put the task's job into the table or take it out.  A run that is overtaken by its timeout leaves
its job behind, and the job is then killed; a run that ends by itself leaves none.

The step from one reply to the next is a function of the table, the run and the reply, so runs
of several tasks can be interleaved in any order; `Service.execute` plays one run alone.
-/

namespace QueryDesk

open Web (Request Reply Exchange)

/-- What becomes of a task's entry in the table of jobs. -/
inductive Entry (Handle : Type) where
  | keep
  | hold (handle : Handle)
  | release

/-- The table once an entry has changed. -/
def Entry.apply {Handle : Type} (task : String) (jobs : Jobs Handle) : Entry Handle → Jobs Handle
  | keep => jobs
  | hold handle => jobs.insert task handle
  | release => jobs.erase task

/-- One move of a run: the next request, or the result. -/
inductive Move (Phase Handle : Type) where
  | ask (entry : Entry Handle) (request : Request) (phase : Phase)
  | finish (entry : Entry Handle) (result : Except Fault ResultSet)

/-- How an engine is spoken to.  A link is what a connection keeps, a handle is how the server
knows a running job, and a phase is what a run waits for. -/
structure Service (Link Phase Handle : Type) where
  kind : EngineKind
  /-- The link before anything is connected. -/
  unlinked : Link
  /-- Opens or checks the connection, given a name no other connection has. -/
  connect : String → Link → Exchange (Except Fault Unit × Link)
  /-- Gives up what the connection holds on the server. -/
  disconnect : Link → Exchange Link
  /-- The status, given the number of running jobs. -/
  status : Link → Nat → Exchange EngineStatus
  /-- The first move of a task's run of a statement, or nothing without a connection. -/
  submit : Link → String → String → Option (Move Phase Handle)
  /-- The move that a reply leads to. -/
  resume : Phase → Reply → Move Phase Handle
  kill : Handle → Request

/-- Where a run stands. -/
inductive Run (Phase : Type) where
  | waiting (request : Request) (phase : Phase)
  /-- Overtaken by its timeout; the kill of its job is under way. -/
  | killing (request : Request) (ending : Ending)
  | ended (ending : Ending)

namespace Service

variable {Link Phase Handle : Type} (s : Service Link Phase Handle)

/-- A run that has come to its end: a job that is still in the table is killed. -/
def settle (task : String) (jobs : Jobs Handle) (ending : Ending) : Jobs Handle × Run Phase :=
  match jobs.get? task with
  | some handle => (jobs, .killing (s.kill handle) ending)
  | none => (jobs.erase task, .ended ending)

def follow (task : String) (jobs : Jobs Handle) : Move Phase Handle → Jobs Handle × Run Phase
  | .ask entry request phase => (entry.apply task jobs, .waiting request phase)
  | .finish entry result => s.settle task (entry.apply task jobs) (.finished result)

/-- The start of a task's run of a statement. -/
def start (link : Link) (task sql : String) (jobs : Jobs Handle) : Jobs Handle × Run Phase :=
  match s.submit link task sql with
  | some move => s.follow task jobs move
  | none => (jobs, .ended (.refused s.kind))

def receive (task : String) (jobs : Jobs Handle) (reply : Reply) :
    Run Phase → Jobs Handle × Run Phase
  | .waiting _ phase => s.follow task jobs (s.resume phase reply)
  | .killing _ ending => (jobs.erase task, .ended ending)
  | .ended ending => (jobs, .ended ending)

/-- A run that is overtaken by its timeout. -/
def expire (task : String) (seconds : Nat) (jobs : Jobs Handle) :
    Run Phase → Jobs Handle × Run Phase
  | .waiting _ _ => s.settle task jobs (.timedOut seconds)
  | run => (jobs, run)

/-- A run that only waits for the kill of its job. -/
def finishKill (task : String) (jobs : Jobs Handle) :
    Run Phase → Exchange (Jobs Handle × Option Ending)
  | .ended ending => .done (jobs, some ending)
  | .killing request ending => .ask request fun _ => .done (jobs.erase task, some ending)
  | .waiting _ _ => .done (jobs, none)

/-- A run alone, overtaken by its timeout when it still waits after `patience` replies. -/
def converse (task : String) (seconds : Nat) : Nat → Jobs Handle → Run Phase →
    Exchange (Jobs Handle × Option Ending)
  | patience + 1, jobs, .waiting request phase =>
    .ask request fun reply =>
      let (jobs, run) := s.receive task jobs reply (.waiting request phase)
      converse task seconds patience jobs run
  | 0, jobs, .waiting request phase =>
    .ask request fun _ =>
      let (jobs, run) := s.expire task seconds jobs (.waiting request phase)
      finishKill task jobs run
  | _, jobs, run => finishKill task jobs run

def execute (patience : Nat) (link : Link) (task : String) (seconds : Nat) (sql : String)
    (jobs : Jobs Handle) : Exchange (Jobs Handle × Ending) := do
  let (jobs, run) := s.start link task sql jobs
  let (jobs, ending) ← s.converse task seconds patience jobs run
  return (jobs, ending.getD (.timedOut seconds))

/-- Stops the job of a task; whether one was stopped. -/
def cancel (task : String) (jobs : Jobs Handle) : Exchange Bool :=
  match jobs.get? task with
  | none => .done false
  | some handle => .ask (s.kill handle) fun reply => .done reply.isAccepted

end Service

end QueryDesk
