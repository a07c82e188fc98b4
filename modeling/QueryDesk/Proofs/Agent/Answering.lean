import QueryDesk.Agent.Rehearsal
import QueryDesk.Proofs.Agent.Logged
import QueryDesk.Proofs.Understanding.Compilation

/-!
# What becomes of a query

A query goes through compilation, the making of a task, two changes of its status, the run of its
statement, the presentation of the outcome and the cut to a page, and each of them may put an end
to it.  Unless it is broken off, the end is one of three: no call reaches the engine and the answer
tells why; or the engine is called once, and then the answer is its rows or its error
(`query_outcome`).
-/

namespace QueryDesk

open Report (Envelope Payload)

variable {σ : Type}

/-! ## Tasks -/

theorem mapError_eq_ok {ε ε' α : Type} {x : Except ε α} {f : ε → ε'} {a : α} :
    x.mapError f = .ok a ↔ x = .ok a := by
  cases x with
  | error e => simp [Except.mapError]
  | ok b => simp [Except.mapError]

/-- A task is built exactly of a priority in range and of statements that can be generated. -/
theorem TaskBuilder.build_eq_ok_iff {b : TaskBuilder} {stamp : Stamp} {q : Query}
    {kind : EngineKind} {priority : UInt8} {timeout : UInt64} {t : Task} :
    b.build stamp q kind priority timeout = .ok t ↔
      (1 ≤ priority ∧ priority ≤ 5) ∧ ∃ sql, b.generator.generate q kind.dialect = .ok sql ∧
        t = {
          config := ⟨stamp.id, .ofIntent q.intent.intent, priority, timeout, b.retry⟩
          query := q
          engine := ⟨kind, b.cluster kind⟩
          resources := Cost.resources q
          sql := sql
          createdAt := stamp.createdAt
          status := .pending } := by
  unfold build
  by_cases hpriority : 1 ≤ priority ∧ priority ≤ 5
  · have hconfig : TaskConfig.make stamp.id (.ofIntent q.intent.intent) priority timeout b.retry =
        .ok ⟨stamp.id, .ofIntent q.intent.intent, priority, timeout, b.retry⟩ := if_pos hpriority
    rw [hconfig, and_iff_right hpriority]
    show ((b.generator.generate q kind.dialect).mapError Fault.sql >>= _) = _ ↔ _
    rw [bind_eq_ok]
    refine exists_congr fun sql => ?_
    rw [mapError_eq_ok, pure_eq_ok]
    exact and_congr_right fun _ => eq_comm
  · have hconfig : TaskConfig.make stamp.id (.ofIntent q.intent.intent) priority timeout b.retry =
        .error (.invalidPriority priority.toNat) := if_neg hpriority
    rw [hconfig]
    constructor
    · intro h; cases h
    · rintro ⟨h, -⟩; exact absurd h hpriority

/-! ## Envelopes -/

namespace Report.Envelope

theorem data_of_success {e : Envelope} (h : e.isSuccess = true) :
    (∃ d, e.data? = some d) ∧ e.error? = none := by
  obtain ⟨content, m, info, index⟩ := e
  cases content with
  | success d => exact ⟨⟨d, rfl⟩, rfl⟩
  | failure error => exact Bool.noConfusion h

theorem error_of_failure {e : Envelope} (h : e.isSuccess = false) :
    e.data? = none ∧ ∃ error, e.error? = some error := by
  obtain ⟨content, m, info, index⟩ := e
  cases content with
  | success d => exact Bool.noConfusion h
  | failure error => exact ⟨rfl, error, rfl⟩

theorem ofOutcome_spec (now : String) (o : Outcome) (q : Query) (format : Format) :
    (ofOutcome now o q format).isSuccess = o.success ∧
      (ofOutcome now o q format).queryInfo = none := by
  unfold ofOutcome
  cases o.success <;> exact ⟨rfl, rfl⟩

theorem paginate_spec (e : Envelope) (page pageSize : Nat) :
    (e.paginate page pageSize).isSuccess = e.isSuccess ∧
      (e.paginate page pageSize).queryInfo = e.queryInfo := by
  obtain ⟨content, m, info, index⟩ := e
  cases content <;> exact ⟨rfl, rfl⟩

/-- What an envelope tells of its task under a key. -/
def taskInfo? (e : Envelope) (key : String) : Option Json :=
  e.queryInfo.bind fun info => (info.get? "task_info").bind fun task => task.get? key

end Report.Envelope

/-! ## The stages of a query -/

namespace Agent

variable (a : Agent (StateM σ))

/-- What the model answers to a query that is asked in a world: the clock is read first. -/
def answerIn (text : String) (w : σ) : ModelAnswer :=
  resultIn (a.ask (a.compiler.request text)) (worldAfter a.clock.seconds w)

variable {a}

theorem logs_compile (text : String) (w : σ) :
    Logs (a.logged.compile text) (a.compile text) w [] := (Logs.lift _ w).map _

theorem compile_result (text : String) (w : σ) :
    resultIn (a.compile text) (worldAfter a.clock.seconds w) =
      a.compiler.compile text (a.answerIn text w) := by
  rw [compile, resultIn_bind, resultIn_pure, answerIn]

theorem logs_newTask (q : Query) (opts : QueryOptions) (w : σ) :
    Logs (a.logged.newTask q opts) (a.newTask q opts) w [] := (Logs.lift _ w).map _

/-- The outcome as an answer, cut to the page that is wanted. -/
def shown (now : String) (o : Outcome) (q : Query) (format : Format) (opts : QueryOptions) :
    Envelope :=
  match opts.page with
  | some page => (Envelope.ofOutcome now o q format).paginate page.toNat opts.pageSize.toNat
  | none => .ofOutcome now o q format

theorem shown_spec (now : String) (o : Outcome) (q : Query) (format : Format)
    (opts : QueryOptions) : (shown now o q format opts).isSuccess = o.success ∧
      (shown now o q format opts).queryInfo = none := by
  obtain ⟨hsuccess, hinfo⟩ := Envelope.ofOutcome_spec now o q format
  unfold shown
  cases opts.page with
  | none => exact ⟨hsuccess, hinfo⟩
  | some page =>
    obtain ⟨hsuccess', hinfo'⟩ := Envelope.paginate_spec (.ofOutcome now o q format) page.toNat
      opts.pageSize.toNat
    exact ⟨hsuccess'.trans hsuccess, hinfo'.trans hinfo⟩

theorem present_eq {m : Type → Type} [Monad m] (a : Agent m) (o : Outcome) (q : Query) (t : Task)
    (format : Format) (opts : QueryOptions) (started : Float) :
    a.present o q t format opts started = do
      let now ← a.clock.now
      if (shown now o q format opts).isSuccess then
        let ended ← a.clock.seconds
        return (shown now o q format opts).withQueryInfo (queryInfo q t (ended - started))
      else return shown now o q format opts := rfl

theorem logs_present (o : Outcome) (q : Query) (t : Task) (format : Format) (opts : QueryOptions)
    (started : Float) (w : σ) : Logs (a.logged.present o q t format opts started)
      (a.present o q t format opts started) w [] := by
  rw [present_eq, present_eq]
  refine (Logs.lift _ w).bind_nil ?_
  split
  · exact (Logs.lift _ _).map _
  · exact Logs.pure _ _

/-- An answer is a success exactly if its outcome is one, and then it tells of its query. -/
theorem present_result (o : Outcome) (q : Query) (t : Task) (format : Format)
    (opts : QueryOptions) (started : Float) (w : σ) : ∃ e totalTime,
      resultIn (a.present o q t format opts started) w = e ∧ e.isSuccess = o.success ∧
      e.queryInfo = if o.success then some (queryInfo q t totalTime) else none := by
  obtain ⟨hsuccess, hinfo⟩ := shown_spec (resultIn a.clock.now w) o q format opts
  rw [present_eq, resultIn_bind]
  cases ho : o.success with
  | true =>
    rw [ho] at hsuccess
    rw [if_pos hsuccess]
    exact ⟨_, _, rfl, hsuccess, rfl⟩
  | false =>
    rw [ho] at hsuccess
    rw [if_neg (by rw [hsuccess]; exact Bool.noConfusion)]
    exact ⟨_, 0, rfl, hsuccess, hinfo⟩

/-- A pending task runs, and ends as its run does. -/
theorem dispatch_eq {m : Type → Type} [Monad m] (a : Agent m) {t : Task}
    (ht : t.status = .pending) (sql : String) : a.dispatch t sql = do
      let o ← a.backend.execute sql { t with status := .running }
      return .ok (o, { t with status := if o.success then .completed else .failed }) := by
  have hstart : t.transition .running = .ok { t with status := .running } := by
    unfold Task.transition
    rw [ht]
    rfl
  have hend : ∀ success : Bool, Task.transition { t with status := .running }
      (if success then .completed else .failed) =
      .ok { t with status := if success then .completed else .failed } := by
    intro success
    cases success <;> rfl
  unfold dispatch
  simp only [hstart, hend]

theorem dispatch_pending {t : Task} (ht : t.status = .pending) (sql : String) (w : σ) :
    ∃ o, Logs (a.logged.dispatch t sql) (a.dispatch t sql) w
        [.executed sql { t with status := .running } o] ∧
      resultIn (a.dispatch t sql) w =
        .ok (o, { t with status := if o.success then .completed else .failed }) := by
  rw [dispatch_eq a ht, dispatch_eq a.logged ht]
  exact ⟨_, (Logs.call _ _ w).map _, rfl⟩

/-- A task that cannot be made ends a query before any call. -/
theorem answer_of_fault {text : String} {opts : QueryOptions} {w : σ} {q : Query} {f : Fault}
    (hq : resultIn (a.compile text) w = .ok q)
    (hf : resultIn (a.newTask q opts) (worldAfter (a.compile text) w) = .error f)
    (format : Option Format) (started : Float) :
    Logs (a.logged.answer text format opts started) (a.answer text format opts started) w [] ∧
      resultIn (a.answer text format opts started) w = .error (.fault f) := by
  unfold answer
  constructor
  · refine (logs_compile text w).bind_nil ?_
    rw [hq]
    refine (logs_newTask q opts _).bind_nil ?_
    rw [hf]
    exact Logs.pure _ _
  · simp only [resultIn_bind, hq, hf, resultIn_pure]

/-- A task that is made is run, and the answer presents what it led to. -/
theorem answer_of_task {text : String} {opts : QueryOptions} {w : σ} {q : Query} {t : Task}
    (hq : resultIn (a.compile text) w = .ok q)
    (ht : resultIn (a.newTask q opts) (worldAfter (a.compile text) w) = .ok t)
    (hpending : t.status = .pending) (format : Option Format) (started : Float) :
    ∃ o e totalTime, Logs (a.logged.answer text format opts started)
        (a.answer text format opts started) w
        [.executed t.sql.sql { t with status := .running } o] ∧
      resultIn (a.answer text format opts started) w = .ok e ∧ e.isSuccess = o.success ∧
      e.queryInfo =
        if o.success then some (queryInfo q { t with status := .completed } totalTime)
        else none := by
  obtain ⟨o, hlogs, ho⟩ := dispatch_pending (a := a) hpending t.sql.sql
    (worldAfter (a.newTask q opts) (worldAfter (a.compile text) w))
  obtain ⟨e, totalTime, he, hsuccess, hinfo⟩ := present_result (a := a) o q
    { t with status := if o.success then .completed else .failed } (a.formatFor format q) opts
    started (worldAfter (a.dispatch t t.sql.sql)
      (worldAfter (a.newTask q opts) (worldAfter (a.compile text) w)))
  refine ⟨o, e, totalTime, ?_, ?_, hsuccess, ?_⟩
  · unfold answer
    refine (logs_compile text w).bind_nil ?_
    rw [hq]
    refine (logs_newTask q opts _).bind_nil ?_
    rw [ht]
    refine hlogs.bind_last ?_
    rw [ho]
    exact (logs_present _ _ _ _ _ _ _).map _
  · unfold answer
    simp only [resultIn_bind, hq, ht, ho, he, resultIn_pure]
  · rw [hinfo]
    cases o.success <;> rfl

theorem logs_failure (f : Fault) (format : Format) (started : Float) (w : σ) :
    Logs (a.logged.failure f format started) (a.failure f format started) w [] := by
  unfold failure
  refine (Logs.lift _ w).bind_nil ?_
  exact (Logs.lift _ _).map _

theorem logs_refusal (format : Format) (w : σ) :
    Logs (a.logged.refusal format) (a.refusal format) w [] := (Logs.lift _ w).map _

theorem logs_conclude (format : Format) (started : Float) (r : Except Halt Envelope) (w : σ) :
    Logs (a.logged.conclude format started r) (a.conclude format started r) w [] := by
  rcases r with (f | x) | e
  · exact (logs_failure f format started w).map _
  · exact Logs.pure _ _
  · exact Logs.pure _ _

/-! ## The guard -/

section Guard

variable {m : Type → Type} [Monad m] (a : Agent m)

/-- Work on an answer that only a connected agent takes up, and of which it tells the fault. -/
def guarded (format : Format) (work : Float → m (Except Halt Envelope)) :
    m (Except Abort Envelope) := do
  if a.connected then
    let started ← a.clock.seconds
    a.conclude format started (← work started)
  else return .ok (← a.refusal format)

theorem query_eq (text : String) (format : Option Format) (opts : QueryOptions) :
    a.query text format opts =
      a.guarded (format.getD a.defaultFormat) (a.answer text format opts) := rfl

theorem preview_eq (text : String) (size : UInt64) :
    a.preview text size = a.guarded .table fun _ => a.sample text size := rfl

variable {a} (format : Format) (work : Float → m (Except Halt Envelope))

theorem guarded_of_connected (h : a.connected = true) : a.guarded format work = (do
    let started ← a.clock.seconds
    a.conclude format started (← work started)) := if_pos h

theorem guarded_of_disconnected (h : a.connected = false) :
    a.guarded format work = (do return .ok (← a.refusal format)) :=
  if_neg (Bool.not_eq_true _ ▸ h)

end Guard

section Guarded

variable {format : Format} {x : Float → Logged σ (Except Halt Envelope)}
  {y : Float → StateM σ (Except Halt Envelope)} {w : σ}

/-- A connected agent calls its engine as the work does. -/
theorem logs_guarded {events : List Event} (hconnected : a.connected = true)
    (hlogs : Logs (x (resultIn a.clock.seconds w)) (y (resultIn a.clock.seconds w))
      (worldAfter a.clock.seconds w) events) :
    Logs (a.logged.guarded format x) (a.guarded format y) w events := by
  rw [guarded_of_connected format y hconnected,
    guarded_of_connected (a := a.logged) format x hconnected]
  exact (Logs.lift a.clock.seconds w).bind_nil (hlogs.bind_last (logs_conclude _ _ _ _))

theorem logs_guarded_of_disconnected (hconnected : a.connected = false) :
    Logs (a.logged.guarded format x) (a.guarded format y) w [] := by
  rw [guarded_of_disconnected format y hconnected,
    guarded_of_disconnected (a := a.logged) format x hconnected]
  exact (logs_refusal format w).map _

/-- A connected agent gives what its work comes to. -/
theorem guarded_result (format : Format) (y : Float → StateM σ (Except Halt Envelope)) (w : σ)
    (hconnected : a.connected = true) :
    ∃ w', resultIn (a.guarded format y) w =
      resultIn (a.conclude format (resultIn a.clock.seconds w)
        (resultIn (y (resultIn a.clock.seconds w)) (worldAfter a.clock.seconds w))) w' := by
  rw [guarded_of_connected format y hconnected, resultIn_bind, resultIn_bind]
  exact ⟨_, rfl⟩

theorem guarded_result_of_disconnected (format : Format)
    (y : Float → StateM σ (Except Halt Envelope)) (w : σ) (hconnected : a.connected = false) :
    resultIn (a.guarded format y) w = .ok (resultIn (a.refusal format) w) := by
  rw [guarded_of_disconnected format y hconnected]
  rfl

end Guarded

/-! ## The end of a query -/

/-- What it takes to call the engine for a query: an agent that is connected, a priority in range,
and statements that can be generated for the engine. -/
structure Admits (a : Agent (StateM σ)) (q : Query) (opts : QueryOptions) (b : SqlBundle) :
    Prop where
  connected : a.connected = true
  priority : 1 ≤ opts.priority ∧ opts.priority ≤ 5
  generates : a.tasks.generator.generate q a.kind.dialect = .ok b

theorem Admits.iff_build {q : Query} {opts : QueryOptions} (hconnected : a.connected = true)
    (stamp : Stamp) : (∃ b, a.Admits q opts b) ↔
      ∃ t, a.tasks.build stamp q a.kind opts.priority opts.timeoutSeconds = .ok t := by
  simp only [TaskBuilder.build_eq_ok_iff]
  constructor
  · rintro ⟨b, -, hpriority, hgenerates⟩
    exact ⟨_, hpriority, b, hgenerates, rfl⟩
  · rintro ⟨-, hpriority, b, hgenerates, -⟩
    exact ⟨b, hconnected, hpriority, hgenerates⟩

/-- The calls that a query makes and the answer that it gets. -/
structure Ends (a : Agent (StateM σ)) (q : Query) (opts : QueryOptions) (events : List Event)
    (e : Envelope) : Prop where
  /-- The engine is called once, with the main statement, if there is nothing in the way. -/
  called : ∀ b, a.Admits q opts b → ∃ t o, events = [.executed b.sql t o]
  uncalled : (∀ b, ¬a.Admits q opts b) → events = []
  success_iff : e.isSuccess = true ↔
    ∃ b, a.Admits q opts b ∧ ∃ t o, events = [.executed b.sql t o] ∧ o.success = true
  success : e.isSuccess = true → (∃ d, e.data? = some d) ∧ e.error? = none ∧
    e.taskInfo? "status" = some (.str "completed") ∧
    ∃ sql t o, events = [.executed sql t o] ∧ e.taskInfo? "sql" = some (.str sql)
  failure : e.isSuccess = false →
    e.data? = none ∧ (∃ error, e.error? = some error) ∧ e.queryInfo = none

theorem Ends.of_not_admitted {q : Query} {opts : QueryOptions} {e : Envelope}
    (hnot : ∀ b, ¬a.Admits q opts b) (hfailure : e.isSuccess = false)
    (hinfo : e.queryInfo = none) : a.Ends q opts [] e where
  called b hb := absurd hb (hnot b)
  uncalled _ := rfl
  success_iff := by
    rw [hfailure]
    constructor
    · intro h; cases h
    · rintro ⟨b, hb, -⟩; exact absurd hb (hnot b)
  success h := by rw [hfailure] at h; cases h
  failure h := by
    obtain ⟨hdata, herror⟩ := Report.Envelope.error_of_failure h
    exact ⟨hdata, herror, hinfo⟩

theorem Ends.of_admitted {q : Query} {opts : QueryOptions} {b : SqlBundle} {t t' : Task}
    {o : Outcome} {e : Envelope} {totalTime : Float} (hb : a.Admits q opts b)
    (hsql : t.sql = b) (hsuccess : e.isSuccess = o.success)
    (hinfo : e.queryInfo =
      if o.success then some (queryInfo q { t with status := .completed } totalTime) else none) :
    a.Ends q opts [.executed b.sql t' o] e where
  called b' hb' := by
    have heq : b = b' := Except.ok.inj (hb.generates.symm.trans hb'.generates)
    exact ⟨t', o, by rw [heq]⟩
  uncalled hnot := absurd hb (hnot b)
  success_iff := by
    rw [hsuccess]
    constructor
    · intro ho
      exact ⟨b, hb, t', o, rfl, ho⟩
    · rintro ⟨b', -, t'', o', hevents, ho'⟩
      have hcall := List.head_eq_of_cons_eq hevents
      rw [(Event.executed.inj hcall).2.2]
      exact ho'
  success h := by
    obtain ⟨hdata, herror⟩ := Report.Envelope.data_of_success h
    rw [hsuccess] at h
    rw [h, if_pos rfl] at hinfo
    refine ⟨hdata, herror, ?_, b.sql, t', o, rfl, ?_⟩
    · rw [Report.Envelope.taskInfo?, hinfo]
      rfl
    · rw [Report.Envelope.taskInfo?, hinfo]
      show some (Json.str t.sql.sql) = _
      rw [hsql]
  failure h := by
    obtain ⟨hdata, herror⟩ := Report.Envelope.error_of_failure h
    rw [hsuccess] at h
    rw [h] at hinfo
    exact ⟨hdata, herror, hinfo⟩

/-- A query whose request compiles has an answer, in keeping with the calls that it makes. -/
theorem query_ends {q : Query} {text : String} {w : σ}
    (hq : a.compiler.compile text (a.answerIn text w) = .ok q) (format : Option Format)
    (opts : QueryOptions) :
    ∃ events e, resultIn (a.query text format opts) w = .ok e ∧
      Logs (a.logged.query text format opts) (a.query text format opts) w events ∧
      a.Ends q opts events e := by
  cases hconnected : a.connected with
  | false =>
    have hnot : ∀ b, ¬a.Admits q opts b := fun b hb =>
      Bool.noConfusion (hconnected.symm.trans hb.connected)
    exact ⟨[], _, guarded_result_of_disconnected _ _ w hconnected,
      logs_guarded_of_disconnected hconnected, .of_not_admitted hnot rfl rfl⟩
  | true =>
    have hcompile := (compile_result text w).trans hq
    obtain ⟨w', hquery⟩ := guarded_result (format.getD a.defaultFormat)
      (a.answer text format opts) w hconnected
    cases htask : resultIn (a.newTask q opts)
        (worldAfter (a.compile text) (worldAfter a.clock.seconds w)) with
    | error f =>
      obtain ⟨hlogs, hresult⟩ := answer_of_fault hcompile htask format
        (resultIn a.clock.seconds w)
      have hnot : ∀ b, ¬a.Admits q opts b := by
        intro b hb
        obtain ⟨t, ht⟩ := (Admits.iff_build hconnected _).mp ⟨b, hb⟩
        cases htask.symm.trans ht
      rw [hresult] at hquery
      exact ⟨[], _, hquery, logs_guarded hconnected hlogs, .of_not_admitted hnot rfl rfl⟩
    | ok t =>
      obtain ⟨hpriority, b, hgenerates, ht⟩ := TaskBuilder.build_eq_ok_iff.mp htask
      have hpending : t.status = .pending := by rw [ht]
      have hsql : t.sql = b := by rw [ht]
      obtain ⟨o, e, totalTime, hlogs, hresult, hsuccess, hinfo⟩ := answer_of_task hcompile htask
        hpending format (resultIn a.clock.seconds w)
      rw [hresult] at hquery
      refine ⟨[.executed b.sql { t with status := .running } o], e, hquery, ?_,
        .of_admitted ⟨hconnected, hpriority, hgenerates⟩ hsql hsuccess hinfo⟩
      rw [← hsql]
      exact logs_guarded hconnected hlogs

/-- On any day but the first of the calendar, whatever the model says and the engine does, a query
has an answer, and its request is compiled; the engine is called once, with the main statement of
the compiled query, if the agent is connected, the priority lies in range and the statement can be
generated, and is not called otherwise; and the answer is a success exactly if the engine was called
and its outcome is one. -/
theorem query_outcome {a : Agent (StateM σ)} (hday : a.compiler.today ≠ Date.first)
    (text : String) (format : Option Format) (opts : QueryOptions) (w : σ) :
    ∃ q events e, a.compiler.compile text (a.answerIn text w) = .ok q ∧
      resultIn (a.query text format opts) w = .ok e ∧
      Logs (a.logged.query text format opts) (a.query text format opts) w events ∧
      a.Ends q opts events e := by
  obtain ⟨q, hq⟩ : ∃ q, a.compiler.compile text (a.answerIn text w) = .ok q :=
    ⟨_, Compiler.compile_eq hday text _⟩
  obtain ⟨events, e, hresult, hlogs, hends⟩ := query_ends hq format opts
  exact ⟨q, events, e, hq, hresult, hlogs, hends⟩

/-- An agent over an engine that finds one city, with a model that says nothing of use. -/
def rehearsed (connected : Bool) : Agent (StateM Rehearsal) where
  backend := Script.backend ⟨.hive, none, ["city"], [[("city", .str "Paris")]], 1⟩
  ask := Rehearsal.reply
  clock := .still ⟨"task", "2024-03-15T00:00:00Z"⟩
  compiler := .spring
  tasks := .ofGenerator ⟨5, Compiler.spring.today⟩
  defaultFormat := .json
  defaults := .default
  supported := EngineKind.all
  connected := connected

/-- The model fails, and the second page is wanted. -/
theorem query_outcome_rehearsed : ∃ q events e,
    Compiler.spring.compile "users by city"
      ((rehearsed true).answerIn "users by city" ⟨[], false, []⟩) = .ok q ∧
    resultIn ((rehearsed true).query "users by city" (some .csv) ⟨2, 60, some 2, 1⟩)
      ⟨[], false, []⟩ = .ok e ∧
    Logs ((rehearsed true).logged.query "users by city" (some .csv) ⟨2, 60, some 2, 1⟩)
      ((rehearsed true).query "users by city" (some .csv) ⟨2, 60, some 2, 1⟩)
      ⟨[], false, []⟩ events ∧
    (rehearsed true).Ends q ⟨2, 60, some 2, 1⟩ events e :=
  query_outcome (a := rehearsed true) (by decide) "users by city" (some .csv)
    ⟨2, 60, some 2, 1⟩ ⟨[], false, []⟩

end Agent

end QueryDesk
