import QueryDesk.Agent.Basic

/-!
# Agents with a log

An agent works in a world of which nothing is known: its engine, its model and its clock may do
anything with the world, and answer anything.  A logged agent is the same agent over an engine
whose calls are written down as they are answered.

`Logs x y w events` says that from the world `w` the logged work `x` does what the plain work `y`
does, and writes down `events`.  Work in sequence is logged in sequence (`Logs.bind`), so what an
agent asks of its engine is read off piece by piece.
-/

namespace QueryDesk

variable {σ α β : Type}

/-! ## Work in a world -/

/-- What some work gives, done in a world. -/
def resultIn (x : StateM σ α) (w : σ) : α := (x.run w).run.1

/-- The world that some work leaves behind. -/
def worldAfter (x : StateM σ α) (w : σ) : σ := (x.run w).run.2

@[simp] theorem resultIn_pure (a : α) (w : σ) : resultIn (pure a) w = a := rfl

@[simp] theorem worldAfter_pure (a : α) (w : σ) : worldAfter (pure a) w = w := rfl

@[simp] theorem resultIn_bind (x : StateM σ α) (f : α → StateM σ β) (w : σ) :
    resultIn (x >>= f) w = resultIn (f (resultIn x w)) (worldAfter x w) := rfl

@[simp] theorem worldAfter_bind (x : StateM σ α) (f : α → StateM σ β) (w : σ) :
    worldAfter (x >>= f) w = worldAfter (f (resultIn x w)) (worldAfter x w) := rfl

/-! ## The log -/

/-- A call that reached an engine with what the engine gave back; a statement comes with its task
as it was at that moment. -/
inductive Event where
  | connected (result : Except Fault Unit)
  | disconnected
  | executed (sql : String) (task : Task) (outcome : Outcome)
  | counted (sql : String) (task : Task) (rows : Nat)

namespace Event

def isStatement : Event → Bool
  | executed _ _ _ | counted _ _ _ => true
  | connected _ | disconnected => false

def isDisconnect : Event → Bool
  | disconnected => true
  | connected _ | executed _ _ _ | counted _ _ _ => false

end Event

/-- Work in a world with a log beside it. -/
abbrev Logged (σ : Type) := StateT (List Event) (StateM σ)

/-- Writes down what a call gave back. -/
def Logged.call (x : StateM σ α) (event : α → Event) : Logged σ α := do
  let a ← StateT.lift x
  modify (· ++ [event a])
  return a

/-- What some work writes down from a world. -/
def Logged.eventsIn (x : Logged σ α) (w : σ) : List Event := (resultIn (x.run []) w).2

/-- The engine with a log of the calls that reach it. -/
def Backend.logged (b : Backend (StateM σ)) : Backend (Logged σ) where
  kind := b.kind
  connect := Logged.call b.connect .connected
  disconnect := Logged.call b.disconnect fun _ => .disconnected
  execute sql t := Logged.call (b.execute sql t) (.executed sql t)
  count sql t := Logged.call (b.count sql t) (.counted sql t)
  status := StateT.lift b.status

/-- The agent over the engine with a log. -/
def Agent.logged (a : Agent (StateM σ)) : Agent (Logged σ) where
  backend := a.backend.logged
  ask r := StateT.lift (a.ask r)
  clock := ⟨StateT.lift a.clock.now, StateT.lift a.clock.seconds, StateT.lift a.clock.stamp⟩
  compiler := a.compiler
  tasks := a.tasks
  defaultFormat := a.defaultFormat
  defaults := a.defaults
  supported := a.supported
  connected := a.connected

/-- From a world, logged work does what plain work does, and writes down some events. -/
def Logs (x : Logged σ α) (y : StateM σ α) (w : σ) (events : List Event) : Prop :=
  ∀ log, resultIn (x.run log) w = (resultIn y w, log ++ events) ∧
    worldAfter (x.run log) w = worldAfter y w

namespace Logs

variable {x : Logged σ α} {y : StateM σ α} {w : σ} {events events' : List Event}

theorem eventsIn_eq (h : Logs x y w events) : x.eventsIn w = events := by
  rw [Logged.eventsIn, (h []).1, List.nil_append]

theorem pure (a : α) (w : σ) : Logs (pure a) (pure a) w [] := fun log => by
  rw [List.append_nil]
  exact ⟨rfl, rfl⟩

theorem lift (y : StateM σ α) (w : σ) : Logs (StateT.lift y) y w [] := fun log => by
  rw [List.append_nil]
  exact ⟨rfl, rfl⟩

theorem call (y : StateM σ α) (event : α → Event) (w : σ) :
    Logs (Logged.call y event) y w [event (resultIn y w)] := fun _ => ⟨rfl, rfl⟩

theorem bind {f : α → Logged σ β} {g : α → StateM σ β} (hx : Logs x y w events)
    (hf : Logs (f (resultIn y w)) (g (resultIn y w)) (worldAfter y w) events') :
    Logs (x >>= f) (y >>= g) w (events ++ events') := by
  intro log
  obtain ⟨hresult, hworld⟩ := hx log
  obtain ⟨hresult', hworld'⟩ := hf (log ++ events)
  rw [StateT.run_bind, resultIn_bind, worldAfter_bind, resultIn_bind, worldAfter_bind, hresult,
    hworld, hresult', hworld', List.append_assoc]
  exact ⟨rfl, rfl⟩

theorem bind_nil {f : α → Logged σ β} {g : α → StateM σ β} (hx : Logs x y w [])
    (hf : Logs (f (resultIn y w)) (g (resultIn y w)) (worldAfter y w) events) :
    Logs (x >>= f) (y >>= g) w events := bind hx hf

theorem bind_last {f : α → Logged σ β} {g : α → StateM σ β} (hx : Logs x y w events)
    (hf : Logs (f (resultIn y w)) (g (resultIn y w)) (worldAfter y w) []) :
    Logs (x >>= f) (y >>= g) w events := by
  have hbind := bind hx hf
  rwa [List.append_nil] at hbind

theorem map (hx : Logs x y w events) (f : α → β) :
    Logs (x >>= fun a => Pure.pure (f a)) (y >>= fun a => Pure.pure (f a)) w events :=
  bind_last hx (pure _ _)

end Logs

end QueryDesk
