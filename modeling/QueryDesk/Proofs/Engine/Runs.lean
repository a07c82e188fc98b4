import QueryDesk.Engine.Service
import QueryDesk.Proofs.Fallible

/-!
# Runs

What a run makes of the replies that come.  A run that waits takes one reply after the other; one
that has ended takes none.  So a conversation splits where some replies have been taken and the run
still waits (`play_append`), and a run that is not overtaken by its timeout had patience for every
reply that it took (`exists_patience`).  A result comes of the reply taken last (`exists_finish`).
-/

namespace QueryDesk

open Web (Request Reply Exchange)

/-! ## Replies -/

namespace Web.Reply

theorem accept_eq_ok_iff {what : String} {reply : Reply} {body : Except String String} :
    reply.accept what = .ok body ↔
      ∃ status, reply = .answered status body ∧ 200 ≤ status ∧ status < 300 := by
  cases reply with
  | lost detail => simp [accept]
  | answered status said =>
    by_cases hstatus : 200 ≤ status ∧ status < 300
    · simp [accept, hstatus]
    · simp only [accept, if_neg hstatus, reduceCtorEq, false_iff]
      rintro ⟨_, hsaid, hlow, hhigh⟩
      cases hsaid
      exact hstatus ⟨hlow, hhigh⟩

/-- The reply was accepted, and its body is read as the value. -/
def Holds {α : Type} (read : Json.Unread → Option α) (reply : Reply) (a : α) : Prop :=
  ∃ status text body, reply = .answered status (.ok text) ∧ 200 ≤ status ∧ status < 300 ∧
    Json.unread? text = some body ∧ read body = some a

theorem decode_eq_ok_iff {α : Type} {read : Json.Unread → Option α} {reply : Reply} {a : α}
    {what answer : String} : reply.decode what answer read = .ok a ↔ reply.Holds read a := by
  rw [decode, bind_eq_ok]
  constructor
  · rintro ⟨body, hbody, h⟩
    obtain ⟨status, rfl, hlow, hhigh⟩ := accept_eq_ok_iff.mp hbody
    cases body with
    | error detail => cases h
    | ok text =>
      dsimp only at h
      split at h
      · next b hread =>
        obtain rfl := pure_eq_ok.mp h
        obtain ⟨body, hbody, hb⟩ := Option.bind_eq_some_iff.mp hread
        exact ⟨status, text, body, rfl, hlow, hhigh, hbody, hb⟩
      · cases h
  · rintro ⟨status, text, body, rfl, hlow, hhigh, hbody, ha⟩
    have hread : (Json.unread? text).bind read = some a := by
      rw [hbody, Option.bind_some, ha]
    refine ⟨.ok text, accept_eq_ok_iff.mpr ⟨status, rfl, hlow, hhigh⟩, ?_⟩
    simp only [hread]
    rfl

theorem holds_of_read {α : Type} {read : Json.Unread → Option α} {text : String} {a : α}
    (h : (Json.unread? text).bind read = some a) :
    (Reply.answered 200 (.ok text)).Holds read a := by
  obtain ⟨body, hbody, ha⟩ := Option.bind_eq_some_iff.mp h
  exact ⟨200, text, body, rfl, by decide, by decide, hbody, ha⟩

end Web.Reply

/-! ## Conversations -/

theorem Web.Exchange.play_bind_done {α β : Type} (x : Exchange α) (f : α → β)
    (replies : List Reply) : (x.bind fun a => .done (f a)).play replies =
      ((x.play replies).1, (x.play replies).2.map f) := by
  induction x generalizing replies with
  | done a => rfl
  | ask request next ih =>
    cases replies with
    | nil => rfl
    | cons reply rest =>
      show (request :: (((next reply).bind fun a => .done (f a)).play rest).1,
        (((next reply).bind fun a => .done (f a)).play rest).2) = _
      rw [ih]
      rfl

theorem Ending.finished_ne_timedOut (result : Except Fault ResultSet) (seconds : Nat) :
    finished result ≠ timedOut seconds := nofun

namespace Service

variable {Link Phase Handle : Type} (s : Service Link Phase Handle) (task : String) (seconds : Nat)

/-- A run that is not overtaken ends as its conversation does. -/
theorem play_execute_iff {ending : Ending} (hending : ending ≠ .timedOut seconds) {patience : Nat}
    {link : Link} {sql : String} {jobs jobs' : Jobs Handle} {replies : List Reply}
    {requests : List Request} :
    (s.execute patience link task seconds sql jobs).play replies =
        (requests, some (jobs', ending)) ↔
      (s.converse task seconds patience (s.start link task sql jobs).1
        (s.start link task sql jobs).2).play replies = (requests, some (jobs', some ending)) := by
  have hplay := Exchange.play_bind_done (s.converse task seconds patience
    (s.start link task sql jobs).1 (s.start link task sql jobs).2)
    (fun x => (x.1, x.2.getD (.timedOut seconds))) replies
  have hexecute : (s.execute patience link task seconds sql jobs).play replies = _ := hplay
  rw [hexecute]
  cases (s.converse task seconds patience (s.start link task sql jobs).1
    (s.start link task sql jobs).2).play replies with
  | mk asked result =>
    rcases result with _ | ⟨held, _ | last⟩
    · simp
    · simp [hending.symm]
    · simp

/-- A run that waits takes the next reply. -/
theorem play_receive (patience : Nat) (jobs : Jobs Handle) (request : Request) (phase : Phase)
    (reply : Reply) (rest : List Reply) :
    (s.converse task seconds (patience + 1) jobs (.waiting request phase)).play (reply :: rest) =
      let state := s.receive task jobs reply (.waiting request phase)
      let played := (s.converse task seconds patience state.1 state.2).play rest
      (request :: played.1, played.2) := rfl

/-- A run that is over takes no further part in its conversation. -/
theorem converse_settle (patience : Nat) (jobs : Jobs Handle) (ending : Ending) :
    s.converse task seconds patience (s.settle task jobs ending).1 (s.settle task jobs ending).2 =
      finishKill task (s.settle task jobs ending).1 (s.settle task jobs ending).2 := by
  rw [settle]
  cases jobs.get? task <;> cases patience <;> rfl

section

variable {s task} {phase : Phase} {reply : Reply}

theorem play_ask {entry : Entry Handle} {request' : Request} {phase' : Phase}
    (h : s.resume phase reply = .ask entry request' phase') (patience : Nat) (jobs : Jobs Handle)
    (request : Request) (rest : List Reply) :
    (s.converse task seconds (patience + 1) jobs (.waiting request phase)).play (reply :: rest) =
      let played := (s.converse task seconds patience (entry.apply task jobs)
        (.waiting request' phase')).play rest
      (request :: played.1, played.2) := by
  have hreceive : s.receive task jobs reply (.waiting request phase) =
      (entry.apply task jobs, .waiting request' phase') := by rw [receive, h, follow]
  rw [play_receive, hreceive]

/-- A run that ends and leaves no job behind asks for nothing more. -/
theorem play_finish {entry : Entry Handle} {result : Except Fault ResultSet}
    (h : s.resume phase reply = .finish entry result) {jobs : Jobs Handle}
    (hnone : (entry.apply task jobs).get? task = none) (patience : Nat) (request : Request)
    (rest : List Reply) :
    (s.converse task seconds (patience + 1) jobs (.waiting request phase)).play (reply :: rest) =
      ([request], some ((entry.apply task jobs).erase task, some (.finished result))) := by
  have hreceive : s.receive task jobs reply (.waiting request phase) =
      ((entry.apply task jobs).erase task, .ended (.finished result)) := by
    rw [receive, h, follow, settle, hnone]
  rw [play_receive, hreceive]
  cases patience <;> rfl

end

/-! ## Where a run stands -/

/-- Where a run stands after some replies. -/
def after (state : Jobs Handle × Run Phase) (replies : List Reply) : Jobs Handle × Run Phase :=
  replies.foldl (fun state reply => s.receive task state.1 reply state.2) state

section

variable {s task seconds} {state : Jobs Handle × Run Phase} {jobs jobs' : Jobs Handle}
  {request : Request} {phase : Phase} {before : List Reply}

/-- A run that waits in the end has waited all along. -/
theorem exists_waiting_of_after (h : s.after task state before = (jobs, .waiting request phase)) :
    ∃ jobs request phase, state = (jobs, .waiting request phase) := by
  induction before generalizing state with
  | nil => exact ⟨jobs, request, phase, h⟩
  | cons reply before ih =>
    obtain ⟨jobs', request', phase', hreceive⟩ := ih h
    obtain ⟨held, run⟩ := state
    cases run with
    | waiting request phase => exact ⟨held, request, phase, rfl⟩
    | killing => cases hreceive
    | ended => cases hreceive

/-- A conversation splits at a point where the run waits. -/
theorem play_append (h : s.after task state before = (jobs, .waiting request phase)) :
    ∃ asked, asked.length = before.length ∧ ∀ patience rest,
      (s.converse task seconds (before.length + patience) state.1 state.2).play (before ++ rest) =
        let played := (s.converse task seconds patience jobs (.waiting request phase)).play rest
        (asked ++ played.1, played.2) := by
  induction before generalizing state with
  | nil =>
    obtain rfl : state = (jobs, .waiting request phase) := h
    refine ⟨[], rfl, fun patience rest => ?_⟩
    rw [List.length_nil, Nat.zero_add]
    rfl
  | cons reply before ih =>
    obtain ⟨held, first, start, rfl⟩ := exists_waiting_of_after h
    have hrest : s.after task (s.receive task held reply (.waiting first start)) before =
      (jobs, .waiting request phase) := h
    obtain ⟨asked, hasked, hplay⟩ := ih hrest
    refine ⟨first :: asked, by rw [List.length_cons, hasked, List.length_cons],
      fun patience rest => ?_⟩
    have hlength : (reply :: before).length + patience = (before.length + patience) + 1 := by
      rw [List.length_cons]
      omega
    rw [hlength, List.cons_append, play_receive]
    dsimp only
    rw [hplay, List.cons_append]

/-- The end of a run is settled before its job is looked up. -/
theorem ending_of_settle {replies : List Reply} {requests : List Request}
    {ending ending' : Ending}
    (h : (finishKill task (s.settle task jobs ending).1 (s.settle task jobs ending).2).play
      replies = (requests, some (jobs', some ending'))) : ending' = ending := by
  rw [settle] at h
  cases hheld : jobs.get? task with
  | none =>
    rw [hheld] at h
    cases h
    rfl
  | some handle =>
    rw [hheld] at h
    cases replies with
    | nil => cases h
    | cons reply rest =>
      cases h
      rfl

/-- A run that still waits when its patience is at an end is overtaken by its timeout. -/
theorem timedOut_of_no_patience {replies : List Reply} {requests : List Request} {ending : Ending}
    (h : (s.converse task seconds 0 jobs (.waiting request phase)).play replies =
      (requests, some (jobs', some ending))) : ending = .timedOut seconds := by
  cases replies with
  | nil => cases h
  | cons reply rest =>
    rw [converse, Exchange.play, Prod.mk.injEq] at h
    exact ending_of_settle (Prod.ext rfl h.2)

/-- A run that is not overtaken has patience for every reply it waits for. -/
theorem exists_patience {rest : List Reply} {patience : Nat} {requests : List Request}
    {ending : Ending} (h : s.after task state before = (jobs, .waiting request phase))
    (hplay : (s.converse task seconds patience state.1 state.2).play (before ++ rest) =
      (requests, some (jobs', some ending))) (hending : ending ≠ .timedOut seconds) :
    ∃ spare, patience = before.length + (spare + 1) := by
  induction before generalizing patience state requests with
  | nil =>
    obtain rfl : state = (jobs, .waiting request phase) := h
    cases patience with
    | zero => exact absurd (timedOut_of_no_patience hplay) hending
    | succ spare => exact ⟨spare, by rw [List.length_nil, Nat.zero_add]⟩
  | cons reply before ih =>
    obtain ⟨held, first, start, rfl⟩ := exists_waiting_of_after h
    cases patience with
    | zero => exact absurd (timedOut_of_no_patience hplay) hending
    | succ patience =>
      rw [List.cons_append, play_receive, Prod.mk.injEq] at hplay
      have hrest : s.after task (s.receive task held reply (.waiting first start)) before =
        (jobs, .waiting request phase) := h
      obtain ⟨spare, rfl⟩ := ih hrest (Prod.ext rfl hplay.2)
      exact ⟨spare, by rw [List.length_cons]; omega⟩

/-- A run that comes to wait by a reply was asked on by it. -/
theorem ask_of_receive {reply : Reply} {request' : Request} {phase' : Phase}
    (h : s.receive task jobs reply (.waiting request phase) = (jobs', .waiting request' phase')) :
    ∃ entry, s.resume phase reply = .ask entry request' phase' := by
  rw [receive] at h
  cases hmove : s.resume phase reply with
  | ask entry asked next =>
    rw [hmove] at h
    cases h
    exact ⟨entry, rfl⟩
  | finish entry result =>
    rw [hmove, follow, settle] at h
    cases hheld : (entry.apply task jobs).get? task <;> rw [hheld] at h <;> cases h

/-- A run that ends by itself does so with the reply that its last move is made of. -/
theorem exists_finish {replies : List Reply} {requests : List Request} {patience : Nat}
    {result : Except Fault ResultSet}
    (h : (s.converse task seconds patience jobs (.waiting request phase)).play replies =
      (requests, some (jobs', some (.finished result)))) :
    ∃ before last rest jobs₁ request₁ phase₁ entry, replies = before ++ last :: rest ∧
      s.after task (jobs, .waiting request phase) before = (jobs₁, .waiting request₁ phase₁) ∧
      s.resume phase₁ last = .finish entry result := by
  induction patience generalizing jobs request phase replies requests with
  | zero => exact absurd (timedOut_of_no_patience h) (Ending.finished_ne_timedOut _ _)
  | succ patience ih =>
    cases replies with
    | nil => cases h
    | cons reply rest =>
      rw [play_receive, Prod.mk.injEq] at h
      have hrest := h.2
      cases hmove : s.resume phase reply with
      | ask entry asked next =>
        rw [receive, hmove, follow] at hrest
        obtain ⟨before, last, rest, jobs₁, request₁, phase₁, entry', rfl, hafter, hlast⟩ :=
          ih (Prod.ext rfl hrest)
        refine ⟨reply :: before, last, rest, jobs₁, request₁, phase₁, entry', rfl, ?_, hlast⟩
        rw [← hafter, after, List.foldl_cons, receive, hmove, follow]
        rfl
      | finish entry result' =>
        rw [receive, hmove, follow, converse_settle] at hrest
        obtain ⟨⟩ := ending_of_settle (Prod.ext rfl hrest)
        exact ⟨[], reply, rest, jobs, request, phase, entry, rfl, rfl, hmove⟩

end

/-! ## Results -/

/-- Over these replies a run of some statement ends with the result set. -/
def Yields (s : Service Link Phase Handle) (replies : List Reply) (r : ResultSet) : Prop :=
  ∃ patience link task seconds sql jobs requests jobs',
    (s.execute patience link task seconds sql jobs).play replies =
      (requests, some (jobs', .finished (.ok r)))

/-- No run is over before it has asked for anything. -/
def AsksFirst (s : Service Link Phase Handle) : Prop :=
  ∀ link task sql entry result, s.submit link task sql ≠ some (.finish entry result)

/-- A result set is made of the reply that comes last, in the phase that the others have led to. -/
theorem Yields.exists_finish {s : Service Link Phase Handle} {replies : List Reply} {r : ResultSet}
    (h : s.Yields replies r) (hasks : s.AsksFirst) :
    ∃ link task sql jobs before last rest jobs₁ request phase entry,
      replies = before ++ last :: rest ∧
      s.after task (s.start link task sql jobs) before = (jobs₁, .waiting request phase) ∧
      s.resume phase last = .finish entry (.ok r) := by
  obtain ⟨patience, link, task, seconds, sql, jobs, requests, jobs', hplay⟩ := h
  rw [s.play_execute_iff task seconds (Ending.finished_ne_timedOut _ _), start] at hplay
  refine ⟨link, task, sql, jobs, ?_⟩
  rw [start]
  cases hsubmit : s.submit link task sql with
  | none =>
    rw [hsubmit] at hplay
    cases patience <;> cases hplay
  | some move =>
    rw [hsubmit] at hplay
    cases move with
    | ask entry request phase => exact Service.exists_finish hplay
    | finish entry result => exact absurd hsubmit (hasks link task sql entry result)

end Service

end QueryDesk
