import Mathlib.Logic.Function.Basic
import QueryDesk.Proofs.Engine.Waiting

/-!
# Executions side by side

Executions of several tasks share one table of jobs, and between any two of their steps the steps
of others may come.  A step of an execution writes at most one entry, sends at most one request or
takes one reply; so an execution can be overtaken by its timeout with its job not yet in the table,
or not yet out of it.

What a step does depends on its own task's handle alone (`Turn`).  The table and all executions
make up a floor, on which the turns of the tasks and the cancel calls come in any order (`Path`).
An execution that is played alone is such a path (`path_execute`).
-/

namespace QueryDesk

open Web (Request Reply Exchange)

/-! ## One entry -/

variable {Link Phase Handle : Type}

/-- What becomes of the handle of a task. -/
def Entry.onto (held : Option Handle) : Entry Handle → Option Handle
  | keep => held
  | hold handle => some handle
  | release => none

theorem Entry.get?_apply (task other : String) (jobs : Jobs Handle) (entry : Entry Handle) :
    (entry.apply task jobs).get? other =
      if other = task then entry.onto (jobs.get? task) else jobs.get? other := by
  cases entry with
  | keep =>
    by_cases h : other = task
    · subst h
      simp [apply, onto]
    · simp [apply, h]
  | hold handle => exact Jobs.get?_insert task other handle jobs
  | release => exact Jobs.get?_erase task other jobs

/-- What a move does to the entry of its task. -/
def Move.entry : Move Phase Handle → Entry Handle
  | ask entry _ _ => entry
  | finish entry _ => entry

namespace Service

/-- The entries that a run writes one by one after a reply.  Together they make the table that the
move is said to make of it. -/
structure Writes (s : Service Link Phase Handle) where
  entries : Phase → Reply → List (Entry Handle)
  together : ∀ phase reply task jobs, (entries phase reply).foldl (Entry.apply task) jobs =
    (s.resume phase reply).entry.apply task jobs

/-- After each reply one entry is written. -/
def Writes.single (s : Service Link Phase Handle) : s.Writes where
  entries phase reply := [(s.resume phase reply).entry]
  together _ _ _ _ := rfl

/-! ## One execution -/

/-- Where an execution stands. -/
inductive Stage (Phase Handle : Type) where
  | idle
  /-- Before the entries that are still to be written, and then the move. -/
  | moving (entries : List (Entry Handle)) (move : Move Phase Handle)
  | waiting (phase : Phase)
  /-- The run is over; its job is not looked up yet. -/
  | ended (ending : Ending)
  | killing (ending : Ending)
  /-- The job needs no kill any more; its entry is still to be cleared. -/
  | clearing (ending : Ending)
  | returned (ending : Ending)

/-- Whether the run is under way, under its timeout. -/
def Stage.Runs : Stage Phase Handle → Prop
  | moving _ _ | waiting _ => True
  | idle | ended _ | killing _ | clearing _ | returned _ => False

/-- What an execution does in a step. -/
inductive Act (Handle : Type) where
  | called (sql : String)
  | wrote (entry : Entry Handle)
  | asked (request : Request)
  | took (reply : Reply)
  /-- The run is over, by itself or by its timeout. -/
  | ended (ending : Ending)
  | killed (request : Request)
  /-- No job was found to be killed. -/
  | spared
  | returned (ending : Ending)

/-- The request that is sent. -/
def Act.request? : Act Handle → Option Request
  | asked request | killed request => some request
  | called _ | wrote _ | took _ | ended _ | spared | returned _ => none

variable {s : Service Link Phase Handle} (w : s.Writes)

/-- A step of the execution of a task, given the task's handle in the table: what is done, what
becomes of the entry, and where the execution then stands. -/
inductive Turn (task : String) : Stage Phase Handle → Option Handle → Act Handle →
    Entry Handle → Stage Phase Handle → Prop
  | call {link sql move held} (h : s.submit link task sql = some move) :
    Turn task .idle held (.called sql) .keep (.moving [move.entry] move)
  | refuse {link sql held} (h : s.submit link task sql = none) :
    Turn task .idle held (.called sql) .keep (.returned (.refused s.kind))
  | write {entry entries move held} :
    Turn task (.moving (entry :: entries) move) held (.wrote entry) entry (.moving entries move)
  | ask {entry request phase held} :
    Turn task (.moving [] (.ask entry request phase)) held (.asked request) .keep (.waiting phase)
  | take {phase reply held} :
    Turn task (.waiting phase) held (.took reply) .keep
      (.moving (w.entries phase reply) (s.resume phase reply))
  | finish {entry result held} :
    Turn task (.moving [] (.finish entry result)) held (.ended (.finished result)) .keep
      (.ended (.finished result))
  | expire {stage seconds held} (h : stage.Runs) :
    Turn task stage held (.ended (.timedOut seconds)) .keep (.ended (.timedOut seconds))
  | kill {ending handle} :
    Turn task (.ended ending) (some handle) (.killed (s.kill handle)) .keep (.killing ending)
  | spare {ending} : Turn task (.ended ending) none .spared .keep (.clearing ending)
  | answer {ending reply held} :
    Turn task (.killing ending) held (.took reply) .keep (.clearing ending)
  | clear {ending held} :
    Turn task (.clearing ending) held (.returned ending) .release (.returned ending)

/-! ## All executions -/

/-- The table of jobs and the execution of each task. -/
structure Floor (Phase Handle : Type) where
  jobs : Jobs Handle
  stage : String → Stage Phase Handle

namespace Floor

def empty : Floor Phase Handle := ⟨[], fun _ => .idle⟩

/-- The floor with another table, and the execution of a task elsewhere. -/
def put (σ : Floor Phase Handle) (task : String) (jobs : Jobs Handle)
    (stage : Stage Phase Handle) : Floor Phase Handle :=
  ⟨jobs, Function.update σ.stage task stage⟩

@[simp] theorem jobs_put (σ : Floor Phase Handle) (task : String) (jobs : Jobs Handle)
    (stage : Stage Phase Handle) : (σ.put task jobs stage).jobs = jobs := rfl

@[simp] theorem stage_put_self (σ : Floor Phase Handle) (task : String) (jobs : Jobs Handle)
    (stage : Stage Phase Handle) : (σ.put task jobs stage).stage task = stage :=
  by simp [put]

theorem stage_put_of_ne (σ : Floor Phase Handle) {task other : String} (h : other ≠ task)
    (jobs : Jobs Handle) (stage : Stage Phase Handle) :
    (σ.put task jobs stage).stage other = σ.stage other :=
  by simp [put, h]

end Floor

/-- What happens on the floor: a step of a task's execution, or a call that cancels a task, with
all that it says to the server. -/
inductive Deed (Handle : Type) where
  | own (task : String) (act : Act Handle)
  | cancel (task : String) (talk : Exchange Bool)

/-- What a task's execution does in it. -/
def Deed.act? (task : String) : Deed Handle → Option (Act Handle)
  | own other act => if other = task then some act else none
  | cancel _ _ => none

/-- What the execution of a task has done. -/
def acts (task : String) (history : List (Deed Handle)) : List (Act Handle) :=
  history.filterMap (Deed.act? task)

inductive Step : Floor Phase Handle → Deed Handle → Floor Phase Handle → Prop
  | own {σ task act entry stage}
      (h : Turn w task (σ.stage task) (σ.jobs.get? task) act entry stage) :
    Step σ (.own task act) (σ.put task (entry.apply task σ.jobs) stage)
  /-- A cancel call looks the handle up and then only talks to the server. -/
  | cancel {σ task} : Step σ (.cancel task (s.cancel task σ.jobs)) σ

/-- Steps in any order, of any number of executions and cancel calls. -/
inductive Path : Floor Phase Handle → List (Deed Handle) → Floor Phase Handle → Prop
  | rest {σ} : Path σ [] σ
  | step {σ history σ' deed σ''} (before : Path σ history σ') (h : Step w σ' deed σ'') :
    Path σ (history ++ [deed]) σ''

variable {w}

theorem Path.trans {σ σ' σ'' : Floor Phase Handle} {history later : List (Deed Handle)}
    (h : Path w σ history σ') (hlater : Path w σ' later σ'') : Path w σ (history ++ later) σ'' := by
  induction hlater with
  | rest => rwa [List.append_nil]
  | step _ hstep ih =>
    rw [← List.append_assoc]
    exact .step ih hstep

/-- What is not done by a task's execution leaves the task's entry and its execution alone. -/
theorem Step.frame {σ σ' : Floor Phase Handle} {deed : Deed Handle} {task : String}
    (h : Step w σ deed σ') (hact : deed.act? task = none) :
    σ'.jobs.get? task = σ.jobs.get? task ∧ σ'.stage task = σ.stage task := by
  cases h with
  | cancel => exact ⟨rfl, rfl⟩
  | @own other act entry stage hturn =>
    have hother : task ≠ other := by
      rintro rfl
      simp [Deed.act?] at hact
    rw [Floor.jobs_put, Entry.get?_apply, if_neg hother, Floor.stage_put_of_ne σ hother]
    exact ⟨rfl, rfl⟩

/-! ## An execution alone -/

section Alone

variable {σ σ₀ : Floor Phase Handle} {task : String} {history : List (Deed Handle)}
  {jobs jobs₁ : Jobs Handle}

/-- The steps of a task's execution take the floor from one table and stage to others, with the
requests sent in turn. -/
def Leads (w : s.Writes) (σ : Floor Phase Handle) (task : String) (jobs : Jobs Handle)
    (stage : Stage Phase Handle) (requests : List Request) (jobs₁ : Jobs Handle)
    (stage₁ : Stage Phase Handle) : Prop :=
  ∃ history : List (Act Handle),
    Path w (σ.put task jobs stage) (history.map (.own task)) (σ.put task jobs₁ stage₁) ∧
    history.filterMap Act.request? = requests

theorem Leads.refl {stage : Stage Phase Handle} : Leads w σ task jobs stage [] jobs stage :=
  ⟨[], .rest, rfl⟩

theorem Leads.trans {stage stage₁ stage₂ : Stage Phase Handle} {requests later : List Request}
    {jobs₂ : Jobs Handle} (h : Leads w σ task jobs stage requests jobs₁ stage₁)
    (hlater : Leads w σ task jobs₁ stage₁ later jobs₂ stage₂) :
    Leads w σ task jobs stage (requests ++ later) jobs₂ stage₂ := by
  obtain ⟨acts, hpath, rfl⟩ := h
  obtain ⟨acts', hpath', rfl⟩ := hlater
  exact ⟨acts ++ acts', List.map_append ▸ hpath.trans hpath', List.filterMap_append⟩

end Alone

end Service

end QueryDesk
