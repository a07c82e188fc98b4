import QueryDesk.Proofs.Agent.Answering

/-!
# Runs of statuses

A task is asked for one status after another.  It takes up those that its transitions allow and
refuses the others, and a refusal leaves it as it was (`Task.attempt_cases`).  So what a run makes
of a task is told by the statuses that it took up (`Task.accepted`): they are a path along the
transitions, and the task differs from what it was in the last of them alone.  Each status has fewer
to follow it than the one before (`TaskStatus.rank_lt`), hence a new task takes up two at most.

An agent asks a new task for two statuses that make such a path, one before its statement is run
and one after it, and so no request of an agent is refused (`tasks_run_lawfully`).
-/

namespace QueryDesk

namespace TaskStatus

/-- The transitions of a task. -/
def transitions : List (TaskStatus × TaskStatus) :=
  [(pending, running), (pending, cancelled), (running, completed), (running, failed),
    (running, cancelled)]

theorem mem_next_iff {s s' : TaskStatus} : s' ∈ s.next ↔ (s, s') ∈ transitions := by
  cases s <;> cases s' <;> decide

/-- The number of statuses that can still follow one another. -/
def rank : TaskStatus → Nat
  | pending => 2
  | running => 1
  | completed | failed | cancelled => 0

theorem rank_lt {s s' : TaskStatus} (h : s' ∈ s.next) : s'.rank < s.rank := by
  revert h
  cases s <;> cases s' <;> decide

theorem not_mem_next_of_isTerminal {s : TaskStatus} (h : s.isTerminal = true) (s' : TaskStatus) :
    s' ∉ s.next := by
  cases s with
  | pending | running => cases h
  | completed | failed | cancelled => exact List.not_mem_nil

end TaskStatus

namespace Task

variable (t : Task)

/-! ## One request -/

theorem attempt_of_mem {next : TaskStatus} (h : next ∈ t.status.next) :
    t.attempt next = (none, { t with status := next }) := by
  rw [attempt, transition, if_pos h]

theorem attempt_of_not_mem {next : TaskStatus} (h : next ∉ t.status.next) :
    t.attempt next =
      (some (.invalidTransition t.config.id t.status.name next.name), t) := by
  rw [attempt, transition, if_neg h]

/-- A request sets the status that was asked for, or it fails and changes nothing. -/
theorem attempt_cases (next : TaskStatus) :
    (next ∈ t.status.next ∧ t.attempt next = (none, { t with status := next })) ∨
      (next ∉ t.status.next ∧ t.attempt next =
        (some (.invalidTransition t.config.id t.status.name next.name), t)) := by
  by_cases h : next ∈ t.status.next
  · exact .inl ⟨h, t.attempt_of_mem h⟩
  · exact .inr ⟨h, t.attempt_of_not_mem h⟩

/-! ## A run of requests -/

/-- The statuses that a task takes up, of those that it is asked for in turn. -/
def accepted (t : Task) : List TaskStatus → List TaskStatus
  | [] => []
  | next :: rest =>
    match t.attempt next with
    | (none, t') => next :: t'.accepted rest
    | (some _, t') => t'.accepted rest

theorem accepted_of_mem {next : TaskStatus} (h : next ∈ t.status.next) (rest : List TaskStatus) :
    t.accepted (next :: rest) = next :: accepted { t with status := next } rest := by
  rw [accepted, t.attempt_of_mem h]

theorem accepted_of_not_mem {next : TaskStatus} (h : next ∉ t.status.next)
    (rest : List TaskStatus) : t.accepted (next :: rest) = t.accepted rest := by
  rw [accepted, t.attempt_of_not_mem h]

theorem run_cons (next : TaskStatus) (rest : List TaskStatus) :
    t.run (next :: rest) = (t.attempt next).2.run rest := rfl

theorem run_append (before after : List TaskStatus) :
    t.run (before ++ after) = (t.run before).run after := List.foldl_append

/-- The statuses taken up are a path along the transitions. -/
theorem isChain_accepted (statuses : List TaskStatus) :
    (t.status :: t.accepted statuses).IsChain fun s s' => (s, s') ∈ TaskStatus.transitions := by
  induction statuses generalizing t with
  | nil => exact .singleton _
  | cons next rest ih =>
    by_cases h : next ∈ t.status.next
    · rw [accepted_of_mem t h, List.isChain_cons_cons]
      exact ⟨TaskStatus.mem_next_iff.mp h, ih { t with status := next }⟩
    · rw [accepted_of_not_mem t h]
      exact ih t

theorem length_accepted_le (statuses : List TaskStatus) :
    (t.accepted statuses).length ≤ t.status.rank := by
  induction statuses generalizing t with
  | nil => exact Nat.zero_le _
  | cons next rest ih =>
    by_cases h : next ∈ t.status.next
    · have hrest : (accepted { t with status := next } rest).length ≤ next.rank :=
        ih { t with status := next }
      have hlower := TaskStatus.rank_lt h
      rw [accepted_of_mem t h, List.length_cons]
      omega
    · rw [accepted_of_not_mem t h]
      exact ih t

/-- After a run a task is what it was, but for the last status that it took up. -/
theorem run_eq (statuses : List TaskStatus) :
    t.run statuses = { t with status := (t.accepted statuses).getLastD t.status } := by
  induction statuses generalizing t with
  | nil => rfl
  | cons next rest ih =>
    by_cases h : next ∈ t.status.next
    · rw [run_cons, t.attempt_of_mem h, accepted_of_mem t h, List.getLastD_cons]
      exact ih { t with status := next }
    · rw [run_cons, t.attempt_of_not_mem h, accepted_of_not_mem t h]
      exact ih t

theorem run_of_isTerminal (h : t.status.isTerminal = true) (statuses : List TaskStatus) :
    t.run statuses = t := by
  induction statuses with
  | nil => rfl
  | cons next rest ih =>
    rw [run_cons, t.attempt_of_not_mem (TaskStatus.not_mem_next_of_isTerminal h next)]
    exact ih

/-- What becomes of a task that is asked for some statuses in turn. -/
structure RunsLawfully (t : Task) (statuses : List TaskStatus) : Prop where
  /-- Each request, in its turn, sets exactly the status asked for if there is such a transition,
  and else it fails and the whole task stays as it is. -/
  each : ∀ before next after, statuses = before ++ next :: after →
    if ((t.run before).status, next) ∈ TaskStatus.transitions then
      (t.run before).attempt next = (none, { t.run before with status := next })
    else ∃ fault, (t.run before).attempt next = (some fault, t.run before)
  /-- The statuses taken up are a path along the transitions, from the task's own. -/
  path : (t.status :: t.accepted statuses).IsChain fun s s' => (s, s') ∈ TaskStatus.transitions
  /-- Two requests are accepted at most. -/
  few : (t.accepted statuses).length ≤ 2
  /-- Every request after one of the three ends is refused. -/
  final : ∀ before middle next after, statuses = before ++ middle ++ next :: after →
    (t.run before).status ∈ [.completed, .failed, .cancelled] →
    ∃ fault, (t.run (before ++ middle)).attempt next = (some fault, t.run before)
  /-- The task keeps all else, and its status is the last one taken up. -/
  frame : t.run statuses = { t with status := (t.accepted statuses).getLastD t.status }

theorem runsLawfully (h : t.status = .pending) (statuses : List TaskStatus) :
    t.RunsLawfully statuses where
  each := by
    rintro before next after -
    rcases (t.run before).attempt_cases next with ⟨hmem, hset⟩ | ⟨hmem, hrefused⟩
    · rwa [if_pos (TaskStatus.mem_next_iff.mp hmem)]
    · rw [if_neg (mt TaskStatus.mem_next_iff.mpr hmem)]
      exact ⟨_, hrefused⟩
  path := t.isChain_accepted statuses
  few := by
    have hle := t.length_accepted_le statuses
    rwa [h] at hle
  final := by
    rintro before middle next after - hend
    have hterminal : (t.run before).status.isTerminal = true := by
      revert hend
      cases (t.run before).status <;> decide
    rw [run_append, (t.run before).run_of_isTerminal hterminal,
      attempt_of_not_mem _ (TaskStatus.not_mem_next_of_isTerminal hterminal next)]
    exact ⟨_, rfl⟩
  frame := t.run_eq statuses

end Task

theorem TaskBuilder.status_of_build {b : TaskBuilder} {stamp : Stamp} {q : Query}
    {kind : EngineKind} {priority : UInt8} {timeout : UInt64} {t : Task}
    (h : b.build stamp q kind priority timeout = .ok t) : t.status = .pending := by
  obtain ⟨-, sql, -, rfl⟩ := build_eq_ok_iff.mp h
  rfl

/-- Every task that is still pending runs lawfully, whatever statuses it is asked for in turn.  A
task that has just been built is pending; so an agent that dispatches it is refused no transition,
and the task ends completed if the outcome is a success and failed if it is not. -/
theorem tasks_run_lawfully :
    (∀ t : Task, t.status = .pending → ∀ statuses, t.RunsLawfully statuses) ∧
      ∀ (b : TaskBuilder) (stamp : Stamp) (q : Query) (kind : EngineKind) (priority : UInt8)
        (timeout : UInt64) (t : Task), b.build stamp q kind priority timeout = .ok t →
        t.status = .pending ∧
        ∀ (m : Type → Type) [Monad m] (a : Agent m) (sql : String), a.dispatch t sql = do
          let o ← a.backend.execute sql { t with status := .running }
          return .ok (o, { t with status := if o.success then .completed else .failed }) := by
  refine ⟨Task.runsLawfully, fun b stamp q kind priority timeout t hbuilt => ?_⟩
  have hnew := TaskBuilder.status_of_build hbuilt
  exact ⟨hnew, fun m _ a sql => a.dispatch_eq hnew sql⟩

/-- A task that is asked for all sorts of statuses, and dispatched. -/
theorem tasks_run_lawfully_mixed : ∃ t,
    (TaskBuilder.ofGenerator ⟨5, Date.first⟩).build ⟨"t", ""⟩ (.ofTable "visits" [] none none)
      .hive 1 60 = .ok t ∧
    t.RunsLawfully [.completed, .running, .pending, .failed, .cancelled] ∧
    t.accepted [.completed, .running, .pending, .failed, .cancelled] = [.running, .failed] ∧
    ∃ o, resultIn ((Agent.rehearsed true).dispatch t t.sql.sql) ⟨[], false, []⟩ =
      .ok (o, { t with status := .completed }) := by
  obtain ⟨t, ht⟩ := isOk_iff_exists.mp (show ((TaskBuilder.ofGenerator ⟨5, Date.first⟩).build
    ⟨"t", ""⟩ (.ofTable "visits" [] none none) .hive 1 60).isOk = true by decide +kernel)
  obtain ⟨hnew, hdispatch⟩ := tasks_run_lawfully.2 _ _ _ _ _ _ _ ht
  refine ⟨t, ht, tasks_run_lawfully.1 t hnew _, ?_, ?_⟩
  · obtain ⟨-, sql, -, rfl⟩ := TaskBuilder.build_eq_ok_iff.mp ht
    rfl
  · rw [hdispatch]
    exact ⟨_, rfl⟩

end QueryDesk
