import QueryDesk.Engine.Service
import QueryDesk.Task.Basic

/-!
# Backends

What an agent needs of an engine, in whatever setting the engine works: one that records what it
is asked, one that follows a script, or one that speaks to a server.
-/

namespace QueryDesk

/-- An engine as an agent sees it. -/
structure Backend (m : Type → Type) where
  kind : EngineKind
  connect : m (Except Fault Unit)
  disconnect : m Unit
  /-- Runs a statement for a task; what goes wrong is told in the outcome. -/
  execute : String → Task → m Outcome
  /-- The number in the first cell of a statement's result. -/
  count : String → Task → m Nat
  status : m EngineStatus

/-- What a service holds between calls. -/
structure Desk (Link Handle : Type) where
  link : Link
  jobs : Jobs Handle

/-- How conversations and runs are carried out. -/
structure Carrier (m : Type → Type) where
  send : Web.Request → m Web.Reply
  /-- Sees a task's run to its end, unless the seconds it is given pass before. -/
  attend : ∀ {Link Phase Handle : Type}, Service Link Phase Handle → String → Nat →
    Jobs Handle → Run Phase → m (Jobs Handle × Ending)
  /-- A name that nothing else has. -/
  freshName : m String
  /-- Seconds that have passed since some fixed moment. -/
  seconds : m Float

/-- The carrier whose runs are overtaken by their timeouts when they still wait after
`patience` replies. -/
def Carrier.patient {m : Type → Type} [Monad m] (send : Web.Request → m Web.Reply)
    (patience : Nat) (freshName : m String) (seconds : m Float) : Carrier m where
  send := send
  attend s task seconds jobs run := do
    let (jobs, ending) ← (s.converse task seconds patience jobs run).perform send
    return (jobs, ending.getD (.timedOut seconds))
  freshName := freshName
  seconds := seconds

namespace Service

variable {Link Phase Handle : Type} {m : Type → Type} [Monad m]

/-- Nothing held yet. -/
def desk (s : Service Link Phase Handle) : Desk Link Handle := ⟨s.unlinked, []⟩

/-- Runs a statement for a task and reports how it ended. -/
def outcomeOf (s : Service Link Phase Handle) (c : Carrier m) (sql : String) (t : Task) :
    StateT (Desk Link Handle) m Outcome := do
  let d ← get
  let started ← StateT.lift c.seconds
  let (jobs, run) := s.start d.link t.config.id sql d.jobs
  let (jobs, ending) ← StateT.lift
    (c.attend s t.config.id t.config.timeoutSeconds.toNat jobs run)
  set { d with jobs := jobs }
  let ended ← StateT.lift c.seconds
  return ending.outcome t.config.id (ended - started)

def backend (s : Service Link Phase Handle) (c : Carrier m) :
    Backend (StateT (Desk Link Handle) m) where
  kind := s.kind
  connect := do
    let d ← get
    let (result, link) ← StateT.lift do (s.connect (← c.freshName) d.link).perform c.send
    set { d with link := link }
    return result
  disconnect := do
    let d ← get
    let link ← StateT.lift ((s.disconnect d.link).perform c.send)
    set { d with link := link }
  execute := s.outcomeOf c
  count sql t := do return (← s.outcomeOf c sql t).firstCount
  status := do
    let d ← get
    StateT.lift ((s.status d.link d.jobs.length).perform c.send)

end Service

end QueryDesk
