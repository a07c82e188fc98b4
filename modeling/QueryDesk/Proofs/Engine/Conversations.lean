import QueryDesk.Proofs.Engine.Runs

/-!
# What is said in a conversation

What can be asked in a conversation whatever the replies are (`Asks`), and what has been said in it
up to its end (`Talks`).  All that a run asks is what its moves ask and the kill of its job
(`asks_execute`).
-/

namespace QueryDesk

open Web (Request Reply Exchange)

/-! ## Conversations -/

namespace Web.Exchange

variable {α β : Type}

/-- What is said in a conversation up to its end. -/
inductive Talks : Exchange α → List (Request × Reply) → α → Prop
  | done {a} : Talks (.done a) [] a
  | ask {request next reply talk a} (h : Talks (next reply) talk a) :
    Talks (.ask request next) ((request, reply) :: talk) a

theorem Talks.of_play {x : Exchange α} {replies : List Reply} {requests : List Request} {a : α}
    (h : x.play replies = (requests, some a)) : x.Talks (requests.zip replies) a := by
  induction x generalizing replies requests with
  | done b =>
    cases h
    exact .done
  | ask request next ih =>
    cases replies with
    | nil => cases h
    | cons reply rest =>
      rw [play, Prod.mk.injEq] at h
      obtain ⟨rfl, hresult⟩ := h
      exact .ask (ih reply (Prod.ext rfl hresult))

theorem Talks.bind_inv {x : Exchange α} {f : α → Exchange β} {talk : List (Request × Reply)}
    {b : β} (h : (x >>= f).Talks talk b) :
    ∃ before a after, talk = before ++ after ∧ x.Talks before a ∧ (f a).Talks after b := by
  induction x generalizing talk with
  | done a => exact ⟨[], a, talk, rfl, .done, h⟩
  | ask request next ih =>
    cases h with
    | @ask _ _ reply talk _ h =>
      obtain ⟨before, a, after, rfl, hbefore, hafter⟩ := ih reply h
      exact ⟨(request, reply) :: before, a, after, rfl, .ask hbefore, hafter⟩

/-- Every request that can be made in the conversation is one of these. -/
def Asks (p : Request → Prop) : Exchange α → Prop
  | done _ => True
  | ask request next => p request ∧ ∀ reply, (next reply).Asks p

variable {p : Request → Prop}

theorem Asks.bind {x : Exchange α} {f : α → Exchange β} (hx : x.Asks p) (hf : ∀ a, (f a).Asks p) :
    (x >>= f).Asks p := by
  induction x with
  | done a => exact hf a
  | ask request next ih => exact ⟨hx.1, fun reply => ih reply (hx.2 reply)⟩

theorem Asks.of_talks {x : Exchange α} (hx : x.Asks p) {talk : List (Request × Reply)} {a : α}
    (h : x.Talks talk a) : ∀ said ∈ talk, p said.1 := by
  induction h with
  | done => exact fun said hsaid => absurd hsaid List.not_mem_nil
  | ask _ ih => exact List.forall_mem_cons.mpr ⟨hx.1, ih (hx.2 _)⟩

theorem Asks.of_play {x : Exchange α} (hx : x.Asks p) (replies : List Reply) :
    ∀ request ∈ (x.play replies).1, p request := by
  induction x generalizing replies with
  | done a => exact fun request h => absurd h List.not_mem_nil
  | ask request next ih =>
    cases replies with
    | nil => exact List.forall_mem_singleton.mpr hx.1
    | cons reply rest => exact List.forall_mem_cons.mpr ⟨hx.1, ih reply (hx.2 reply) rest⟩

end Web.Exchange

/-! ## Runs -/

/-- The request of a move is one of these. -/
def Move.Asks {Phase Handle : Type} (p : Request → Prop) : Move Phase Handle → Prop
  | ask _ request _ => p request
  | finish _ _ => True

namespace Service

variable {Link Phase Handle : Type} {s : Service Link Phase Handle}

/-- A run that is submitted by a request waits for the reply to it. -/
theorem start_of_submit {link : Link} {task sql : String} {entry : Entry Handle}
    {request : Request} {phase : Phase}
    (h : s.submit link task sql = some (.ask entry request phase)) (jobs : Jobs Handle) :
    s.start link task sql jobs = (entry.apply task jobs, .waiting request phase) := by
  rw [start, h]
  rfl

variable {p : Request → Prop}
  (hresume : ∀ phase reply, (s.resume phase reply).Asks p) (hkill : ∀ handle, p (s.kill handle))

include hkill

theorem asks_settle (task : String) (jobs : Jobs Handle) (ending : Ending) :
    (finishKill task (s.settle task jobs ending).1 (s.settle task jobs ending).2).Asks p := by
  rw [settle]
  cases jobs.get? task with
  | none => trivial
  | some handle => exact ⟨hkill handle, fun _ => trivial⟩

include hresume

theorem asks_follow (task : String) (seconds patience : Nat) {jobs : Jobs Handle}
    {move : Move Phase Handle} (hmove : move.Asks p) :
    (s.converse task seconds patience (s.follow task jobs move).1
      (s.follow task jobs move).2).Asks p := by
  induction patience generalizing jobs move with
  | zero =>
    cases move with
    | finish entry result => exact s.converse_settle task seconds 0 _ _ ▸ asks_settle hkill _ _ _
    | ask entry request phase =>
      exact ⟨hmove, fun _ => asks_settle hkill task (entry.apply task jobs) (.timedOut seconds)⟩
  | succ patience ih =>
    cases move with
    | finish entry result => exact s.converse_settle task seconds _ _ _ ▸ asks_settle hkill _ _ _
    | ask entry request phase => exact ⟨hmove, fun reply => ih (hresume phase reply)⟩

/-- All that an execution asks is what its moves ask, and the kill of its job. -/
theorem asks_execute
    (hsubmit : ∀ link task sql move, s.submit link task sql = some move → move.Asks p)
    (patience : Nat) (link : Link) (task : String) (seconds : Nat) (sql : String)
    (jobs : Jobs Handle) : (s.execute patience link task seconds sql jobs).Asks p := by
  refine Exchange.Asks.bind ?_ fun _ => trivial
  show (s.converse task seconds patience (s.start link task sql jobs).1
    (s.start link task sql jobs).2).Asks p
  rw [start]
  cases h : s.submit link task sql with
  | none => cases patience <;> trivial
  | some move =>
    exact asks_follow hresume hkill task seconds patience (hsubmit link task sql move h)

/-- The execution of a statement that is submitted by a request starts with this request.  What it
asks later is what its moves ask, and the kill of its job. -/
theorem exists_execute_eq_ask {link : Link} {task sql : String} {entry : Entry Handle}
    {request : Request} {phase : Phase}
    (hsubmit : s.submit link task sql = some (.ask entry request phase)) (patience seconds : Nat)
    (jobs : Jobs Handle) :
    ∃ next, s.execute patience link task seconds sql jobs = .ask request next ∧
      ∀ reply, (next reply).Asks p := by
  have hstart := start_of_submit hsubmit jobs
  rw [execute, hstart]
  cases patience with
  | zero =>
    exact ⟨_, rfl, fun reply => (asks_settle hkill task (entry.apply task jobs)
      (.timedOut seconds)).bind fun _ => trivial⟩
  | succ patience =>
    exact ⟨_, rfl, fun reply => (asks_follow hresume hkill task seconds patience
      (hresume phase reply)).bind fun _ => trivial⟩

end Service

end QueryDesk
