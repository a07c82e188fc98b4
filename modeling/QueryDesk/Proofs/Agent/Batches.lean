import QueryDesk.Proofs.Agent.Answering
import QueryDesk.Proofs.Understanding.CalendarEnds

/-!
# Answers in a batch

A batch answers each request as a query alone would (`batch_isolates`), when the model's answer
depends on its request only and the engine's outcome on its statement only.  Then the world in which
a query is asked can be seen in nothing but the name and the time of its task, the times at which
it was answered and the time it took (`query_timeless`): so what one request of a batch does to the
world is not seen by the next.

One thing is seen by all of them.  A request that asks, on the first day of the calendar, for the
day before breaks off the batch, and no request of it has an answer then (`batch_lost`).

Requests reach the engine in turn, each with its main statement or not at all, up to the one that
breaks the batch off (`logs_batchFrom`).
-/

namespace QueryDesk

open Report (Envelope Metadata)

variable {σ : Type}

/-! ## What is left without names and times -/

/-- The outcome without the name of its task and the time that it took. -/
def Outcome.timeless (o : Outcome) : Outcome := { o with executionTime := 0.0, taskId := none }

/-- The task without its name and the time it was made. -/
def Task.timeless (t : Task) : Task :=
  { t with config := { t.config with id := "" }, createdAt := "" }

/-- An object with null in place of some of its members. -/
def Json.without (keys : List String) : Json → Json
  | obj ms => obj (ms.map fun m => (m.1, if m.1 ∈ keys then null else m.2))
  | value => value

/-- An object with one of its members changed. -/
def Json.within (key : String) (change : Json → Json) : Json → Json
  | obj ms => obj (ms.map fun m => (m.1, if m.1 = key then change m.2 else m.2))
  | value => value

namespace Report

def Metadata.timeless (m : Metadata) : Metadata :=
  { m with taskId := none, executionTime := 0.0, timestamp := "" }

/-- What is told of a query and its task, without the task's name and any time. -/
def timelessInfo (info : Json) : Json :=
  (info.without ["total_time"]).within "task_info" (·.without ["task_id", "created_at"])

/-- The answer without the name of its task and any time. -/
def Envelope.timeless (e : Envelope) : Envelope :=
  { e with metadata := e.metadata.timeless, queryInfo := e.queryInfo.map timelessInfo }

theorem Envelope.timeless_paginate (e : Envelope) (page pageSize : Nat) :
    (e.paginate page pageSize).timeless = e.timeless.paginate page pageSize := by
  obtain ⟨content, m, info, index⟩ := e
  cases content <;> rfl

theorem Envelope.timeless_ofOutcome {now now' : String} {o o' : Outcome}
    (h : o.timeless = o'.timeless) (q : Query) (format : Format) :
    (ofOutcome now o q format).timeless = (ofOutcome now' o' q format).timeless := by
  obtain ⟨success, error, rows, columns, rowCount, executionTime, taskId⟩ := o
  obtain ⟨success', error', rows', columns', rowCount', executionTime', taskId'⟩ := o'
  rw [Outcome.timeless, Outcome.timeless, Outcome.mk.injEq] at h
  obtain ⟨rfl, rfl, rfl, rfl, rfl, -, -⟩ := h
  cases success <;> rfl

theorem Envelope.timeless_failed (error : String) (format : Format) (now now' : String)
    (time time' : Float) :
    (failed error { Metadata.blank format now with executionTime := time }).timeless =
      (failed error { Metadata.blank format now' with executionTime := time' }).timeless := by
  simp only [timeless, failed, Metadata.timeless, Metadata.blank]

theorem Envelope.timeless_withQueryInfo {e e' : Envelope} (h : e.timeless = e'.timeless)
    {info info' : Json} (hinfo : timelessInfo info = timelessInfo info') :
    (e.withQueryInfo info).timeless = (e'.withQueryInfo info').timeless := by
  rw [timeless, timeless, Envelope.mk.injEq] at h
  simp only [timeless, withQueryInfo, Option.map_some, hinfo, h]

end Report

/-- What is told of a task does not depend on its name and on times. -/
theorem Agent.timelessInfo_queryInfo (q : Query) {t t' : Task} (h : t.timeless = t'.timeless)
    (total total' : Float) : Report.timelessInfo (queryInfo q t total) =
      Report.timelessInfo (queryInfo q t' total') := by
  obtain ⟨⟨id, type, priority, timeout, retry⟩, query, engine, resources, sql, created, status⟩ := t
  obtain ⟨⟨id', type', priority', timeout', retry'⟩, query', engine', resources', sql', created',
    status'⟩ := t'
  rw [Task.timeless, Task.timeless, Task.mk.injEq, TaskConfig.mk.injEq] at h
  obtain ⟨⟨-, rfl, rfl, rfl, rfl⟩, rfl, rfl, rfl, rfl, -, rfl⟩ := h
  rfl

theorem Task.timeless_status {t t' : Task} (h : t.timeless = t'.timeless) (status : TaskStatus) :
    Task.timeless { t with status := status } = Task.timeless { t' with status := status } := by
  rw [timeless, timeless, Task.mk.injEq] at h
  simp only [timeless, h]

theorem TaskBuilder.build_timeless (b : TaskBuilder) (stamp stamp' : Stamp) (q : Query)
    (kind : EngineKind) (priority : UInt8) (timeout : UInt64) :
    (b.build stamp q kind priority timeout).map Task.timeless =
      (b.build stamp' q kind priority timeout).map Task.timeless := by
  unfold build TaskConfig.make
  split
  · cases b.generator.generate q kind.dialect <;> rfl
  · rfl

namespace Agent

/-- The model's answer depends on its request only, and the engine's outcome on its statement only,
up to the name of a task and the time it took. -/
structure Steady (a : Agent (StateM σ)) : Prop where
  asks : ∀ r w w', resultIn (a.ask r) w = resultIn (a.ask r) w'
  runs : ∀ sql t t' w w', (resultIn (a.backend.execute sql t) w).timeless =
    (resultIn (a.backend.execute sql t') w').timeless

variable {a : Agent (StateM σ)}

/-! ## One query in two worlds -/

theorem timeless_shown (now now' : String) {o o' : Outcome} (h : o.timeless = o'.timeless)
    (q : Query) (format : Format) (opts : QueryOptions) :
    (shown now o q format opts).timeless = (shown now' o' q format opts).timeless := by
  unfold shown
  cases opts.page with
  | none => exact Envelope.timeless_ofOutcome h q format
  | some page =>
    dsimp only
    rw [Envelope.timeless_paginate, Envelope.timeless_paginate, Envelope.timeless_ofOutcome h]

theorem timeless_present {o o' : Outcome} (ho : o.timeless = o'.timeless) {t t' : Task}
    (ht : t.timeless = t'.timeless) (q : Query) (format : Format) (opts : QueryOptions)
    (started started' : Float) (w w' : σ) :
    (resultIn (a.present o q t format opts started) w).timeless =
      (resultIn (a.present o' q t' format opts started') w').timeless := by
  have hshown := timeless_shown (resultIn a.clock.now w) (resultIn a.clock.now w') ho q format opts
  have hsuccess := congrArg Envelope.isSuccess hshown
  change (shown _ o q format opts).isSuccess = (shown _ o' q format opts).isSuccess at hsuccess
  rw [present_eq, present_eq, resultIn_bind, resultIn_bind, hsuccess]
  split
  · rw [resultIn_bind, resultIn_bind, resultIn_pure, resultIn_pure]
    exact Envelope.timeless_withQueryInfo hshown (timelessInfo_queryInfo q ht _ _)
  · exact hshown

theorem timeless_failure (f : Fault) (format : Format) (started started' : Float) (w w' : σ) :
    (resultIn (a.failure f format started) w).timeless =
      (resultIn (a.failure f format started') w').timeless := by
  rw [failure, failure]
  simp only [resultIn_bind, resultIn_pure]
  exact Envelope.timeless_failed _ _ _ _ _ _

theorem compile_steady (hsteady : a.Steady) (text : String) (w w' : σ) :
    resultIn (a.compile text) w = resultIn (a.compile text) w' := by
  rw [compile, resultIn_bind, resultIn_bind, resultIn_pure, resultIn_pure, hsteady.asks _ w w']

theorem newTask_pending {q : Query} {opts : QueryOptions} {w : σ} {t : Task}
    (h : resultIn (a.newTask q opts) w = .ok t) : t.status = .pending := by
  obtain ⟨-, sql, -, rfl⟩ := TaskBuilder.build_eq_ok_iff.mp h
  rfl

/-- A statement that is run for one task or the other has the same outcome. -/
theorem dispatch_timeless (hsteady : a.Steady) {t t' : Task} (ht : t.status = .pending)
    (ht' : t'.status = .pending) (htask : t.timeless = t'.timeless) (sql : String) (w w' : σ) :
    ∃ o u o' u', resultIn (a.dispatch t sql) w = .ok (o, u) ∧
      resultIn (a.dispatch t' sql) w' = .ok (o', u') ∧
      o.timeless = o'.timeless ∧ u.timeless = u'.timeless := by
  have ho := hsteady.runs sql { t with status := .running } { t' with status := .running } w w'
  have hsuccess := congrArg Outcome.success ho
  change Outcome.success (resultIn _ _) = Outcome.success (resultIn _ _) at hsuccess
  rw [dispatch_eq a ht, dispatch_eq a ht', resultIn_bind, resultIn_bind, resultIn_pure,
    resultIn_pure]
  refine ⟨_, _, _, _, rfl, rfl, ho, ?_⟩
  rw [hsuccess]
  exact Task.timeless_status htask _

/-- The answer to a request is the same in all worlds, and so is the fault that comes before it. -/
theorem answer_timeless (hsteady : a.Steady) (text : String) (format : Option Format)
    (opts : QueryOptions) (started started' : Float) (w w' : σ) :
    (resultIn (a.answer text format opts started) w).map Envelope.timeless =
      (resultIn (a.answer text format opts started') w').map Envelope.timeless := by
  rw [answer, answer, resultIn_bind, resultIn_bind, compile_steady hsteady text w w']
  cases resultIn (a.compile text) w' with
  | error f =>
    dsimp only
    rw [resultIn_pure, resultIn_pure]
  | ok q =>
    dsimp only
    have hbuild : ((resultIn (a.newTask q opts) (worldAfter (a.compile text) w)).map
        Task.timeless) = (resultIn (a.newTask q opts) (worldAfter (a.compile text) w')).map
          Task.timeless := by
      simp only [newTask, resultIn_bind, resultIn_pure]
      exact a.tasks.build_timeless _ _ _ _ _ _
    rw [resultIn_bind, resultIn_bind]
    cases ht : resultIn (a.newTask q opts) (worldAfter (a.compile text) w) with
    | error f =>
      cases ht' : resultIn (a.newTask q opts) (worldAfter (a.compile text) w') with
      | error f' =>
        rw [ht, ht'] at hbuild
        cases hbuild
        dsimp only
        rw [resultIn_pure, resultIn_pure]
      | ok t' =>
        rw [ht, ht'] at hbuild
        cases hbuild
    | ok t =>
      cases ht' : resultIn (a.newTask q opts) (worldAfter (a.compile text) w') with
      | error f' =>
        rw [ht, ht'] at hbuild
        cases hbuild
      | ok t' =>
        rw [ht, ht'] at hbuild
        have htask : t.timeless = t'.timeless := Except.ok.inj hbuild
        obtain ⟨o, u, o', u', hrun, hrun', ho, hu⟩ := dispatch_timeless hsteady
          (newTask_pending ht) (newTask_pending ht') htask t.sql.sql
          (worldAfter (a.newTask q opts) (worldAfter (a.compile text) w))
          (worldAfter (a.newTask q opts) (worldAfter (a.compile text) w'))
        have hsql := congrArg Task.sql htask
        change t.sql = t'.sql at hsql
        rw [hsql] at hrun hrun'
        dsimp only
        rw [hsql, resultIn_bind, resultIn_bind, hrun, hrun']
        exact congrArg Except.ok (timeless_present ho hu q _ opts started started' _ _)

theorem timeless_conclude {r r' : Except Halt Envelope}
    (h : r.map Envelope.timeless = r'.map Envelope.timeless) (format : Format)
    (started started' : Float) (w w' : σ) :
    (resultIn (a.conclude format started r) w).map Envelope.timeless =
      (resultIn (a.conclude format started' r') w').map Envelope.timeless := by
  cases r with
  | error halt =>
    cases r' with
    | error halt' =>
      obtain rfl : halt = halt' := Except.error.inj h
      cases halt with
      | fault f => exact congrArg Except.ok (timeless_failure f format started started' w w')
      | abort x => rfl
    | ok e' => cases h
  | ok e =>
    cases r' with
    | error halt' => cases h
    | ok e' => exact congrArg Except.ok (Except.ok.inj h)

/-- A query has the same answer in all worlds, or is broken off in all. -/
theorem query_timeless (hsteady : a.Steady) (text : String) (format : Option Format)
    (opts : QueryOptions) (w w' : σ) :
    (resultIn (a.query text format opts) w).map Envelope.timeless =
      (resultIn (a.query text format opts) w').map Envelope.timeless := by
  cases hconnected : a.connected with
  | false =>
    rw [query_eq, guarded_result_of_disconnected _ _ w hconnected,
      guarded_result_of_disconnected _ _ w' hconnected]
    exact congrArg Except.ok (Envelope.timeless_failed _ _ _ _ _ _)
  | true =>
    obtain ⟨v, hv⟩ := guarded_result (format.getD a.defaultFormat)
      (a.answer text format opts) w hconnected
    obtain ⟨v', hv'⟩ := guarded_result (format.getD a.defaultFormat)
      (a.answer text format opts) w' hconnected
    rw [query_eq, hv, hv']
    exact timeless_conclude (answer_timeless hsteady text format opts _ _ _ _) _ _ _ _ _

/-! ## What reaches the engine -/

/-- The calls that a request leads to: none, or its main statement once. -/
def CallsFor (a : Agent (StateM σ)) (text : String) (answer : ModelAnswer) (calls : List Event) :
    Prop :=
  calls = [] ∨ ∃ q b t o, a.compiler.compile text answer = .ok q ∧
    a.tasks.generator.generate q a.kind.dialect = .ok b ∧ calls = [.executed b.sql t o]

theorem Ends.callsFor {text : String} {answer : ModelAnswer} {q : Query} {opts : QueryOptions}
    {events : List Event} {e : Envelope} (h : a.Ends q opts events e)
    (hq : a.compiler.compile text answer = .ok q) : a.CallsFor text answer events := by
  by_cases hadmits : ∃ b, a.Admits q opts b
  · obtain ⟨b, hb⟩ := hadmits
    obtain ⟨t, o, hevents⟩ := h.called b hb
    exact .inr ⟨q, b, t, o, hq, hb.generates, hevents⟩
  · exact .inl (h.uncalled fun b hb => hadmits ⟨b, hb⟩)

/-- A request that a query is broken off at: the agent takes it up on the first day of the calendar,
and the wording that decides on its window names the day before. -/
structure Loses (a : Agent (StateM σ)) (text : String) (answer : ModelAnswer) : Prop where
  connected : a.connected = true
  first : a.compiler.today = Date.first
  asks : Compiler.AsksForYesterday text (Compiler.analyze (Classifier.classify text) answer)

/-- A query is broken off before any call, or it has an answer and its request's calls are made. -/
theorem query_cases (text : String) (format : Option Format) (opts : QueryOptions) (w : σ) :
    (a.Loses text (a.answerIn text w) ∧
      resultIn (a.query text format opts) w = .error .beforeCalendar ∧
      Logs (a.logged.query text format opts) (a.query text format opts) w []) ∨
    (¬a.Loses text (a.answerIn text w) ∧
      ∃ e calls, resultIn (a.query text format opts) w = .ok e ∧
        Logs (a.logged.query text format opts) (a.query text format opts) w calls ∧
        a.CallsFor text (a.answerIn text w) calls) := by
  cases hconnected : a.connected with
  | false =>
    exact .inr ⟨fun h => Bool.noConfusion (hconnected.symm.trans h.connected), _, [],
      guarded_result_of_disconnected _ _ w hconnected, logs_guarded_of_disconnected hconnected,
      .inl rfl⟩
  | true =>
    have hresult := compile_result (a := a) text w
    rcases a.compiler.compile_cases text (a.answerIn text w) with ⟨hspan, hcompile⟩ | ⟨hspan, hq⟩
    · obtain ⟨hfirst, hasks⟩ := Compiler.span_eq_beforeCalendar_iff.mp hspan
      rw [hcompile] at hresult
      obtain ⟨w', hquery⟩ := guarded_result (format.getD a.defaultFormat)
        (a.answer text format opts) w hconnected
      refine .inl ⟨⟨hconnected, hfirst, hasks⟩, ?_, logs_guarded hconnected ?_⟩
      · rw [query_eq, hquery, answer, resultIn_bind, hresult]
        rfl
      · refine (logs_compile text _).bind_nil ?_
        rw [hresult]
        exact Logs.pure _ _
    · obtain ⟨events, e, hanswer, hlogs, hends⟩ := query_ends hq format opts
      exact .inr ⟨fun h => hspan (Compiler.span_eq_beforeCalendar_iff.mpr ⟨h.first, h.asks⟩),
        e, events, hanswer, hlogs, hends.callsFor hq⟩

/-! ## Batches -/

theorem batchFrom_cons {m : Type → Type} [Monad m] (a : Agent m) (format : Option Format)
    (index : Nat) (text : String) (rest : List String) :
    a.batchFrom format index (text :: rest) = (do
      match ← a.query text format a.defaults with
      | .error x => return .error x
      | .ok e =>
        let more ← a.batchFrom format (index + 1) rest
        return more.map (e.withBatchIndex index :: ·)) := rfl

section Result

variable {format : Option Format} {index : Nat} {text : String} {rest : List String} {w : σ}

theorem batchFrom_of_abort {x : Abort}
    (h : resultIn (a.query text format a.defaults) w = .error x) :
    resultIn (a.batchFrom format index (text :: rest)) w = .error x := by
  rw [batchFrom_cons, resultIn_bind, h, resultIn_pure]

theorem batchFrom_of_answer {e : Envelope}
    (h : resultIn (a.query text format a.defaults) w = .ok e) :
    resultIn (a.batchFrom format index (text :: rest)) w =
      (resultIn (a.batchFrom format (index + 1) rest)
        (worldAfter (a.query text format a.defaults) w)).map (e.withBatchIndex index :: ·) := by
  rw [batchFrom_cons, resultIn_bind, h, resultIn_bind, resultIn_pure]

end Result

/-- A batch is lost exactly if a request of it is. -/
theorem batchFrom_lost_iff (hsteady : a.Steady) (format : Option Format) (index : Nat)
    (texts : List String) (w w₀ : σ) :
    (∃ x, resultIn (a.batchFrom format index texts) w = .error x) ↔
      ∃ text ∈ texts, a.Loses text (resultIn (a.ask (a.compiler.request text)) w₀) := by
  induction texts generalizing index w with
  | nil => exact ⟨nofun, nofun⟩
  | cons text rest ih =>
    have hsaid : a.answerIn text w = resultIn (a.ask (a.compiler.request text)) w₀ :=
      hsteady.asks _ _ w₀
    rw [List.exists_mem_cons_iff, ← ih (index + 1) (worldAfter (a.query text format a.defaults) w),
      ← hsaid]
    rcases query_cases (a := a) text format a.defaults w with
      ⟨hloses, hquery, -⟩ | ⟨hloses, e, calls, hquery, -⟩
    · exact iff_of_true ⟨_, batchFrom_of_abort hquery⟩ (.inl hloses)
    · rw [batchFrom_of_answer hquery, or_iff_right hloses]
      cases resultIn (a.batchFrom format (index + 1) rest) _ with
      | error x => exact iff_of_true ⟨x, rfl⟩ ⟨x, rfl⟩
      | ok es => exact iff_of_false nofun nofun

/-- The answer to a query alone that an answer in a batch stands for, in its place there. -/
def alone (a : Agent (StateM σ)) (format : Option Format) (w : σ) (place : Nat) (text : String) :
    Except Abort Envelope :=
  (resultIn (a.query text format a.defaults) w).map fun e => (e.withBatchIndex place).timeless

/-- Each answer of a batch is the answer to a query alone, but for its place, names and times. -/
theorem batchFrom_answers (hsteady : a.Steady) {format : Option Format} {index : Nat}
    {texts : List String} {w : σ} {es : List Envelope}
    (h : resultIn (a.batchFrom format index texts) w = .ok es) (w' : σ) :
    es.map (fun e => .ok e.timeless) =
      texts.mapIdx fun i text => a.alone format w' (index + i) text := by
  induction texts generalizing index w es with
  | nil =>
    obtain rfl := Except.ok.inj h
    rfl
  | cons text rest ih =>
    rcases query_cases (a := a) text format a.defaults w with
      ⟨-, hquery, -⟩ | ⟨-, e, calls, hquery, -⟩
    · cases (batchFrom_of_abort hquery).symm.trans h
    · rw [batchFrom_of_answer hquery] at h
      obtain ⟨more, hmore, rfl⟩ := map_eq_ok.mp h
      have halone : a.alone format w' index text = .ok (e.withBatchIndex index).timeless := by
        have htimeless := query_timeless hsteady text format a.defaults w' w
        rw [hquery] at htimeless
        obtain ⟨e', hquery', he'⟩ := map_eq_ok.mp htimeless
        exact map_eq_ok.mpr ⟨e', hquery', congrArg (Envelope.withBatchIndex index) he'⟩
      simp only [List.map_cons, List.mapIdx_cons, ih hmore, Nat.add_zero, halone, Nat.add_assoc,
        Nat.add_comm 1]

theorem batch_answer (hsteady : a.Steady) {format : Option Format} {texts : List String} {w : σ}
    {es : List Envelope} (h : resultIn (a.batch texts format) w = .ok es) (w' : σ) (i : Nat) :
    es[i]?.map (fun e => .ok e.timeless) = texts[i]?.map (a.alone format w' (i + 1)) := by
  have hanswers := congrArg (·[i]?) (batchFrom_answers hsteady h w')
  simp only [List.getElem?_map, List.getElem?_mapIdx, Nat.add_comm 1] at hanswers
  exact hanswers

theorem logs_batchFrom (hsteady : a.Steady) (format : Option Format) (index : Nat)
    (texts : List String) (w w₀ : σ) :
    ∃ asked rest calls, texts = asked ++ rest ∧
      (∀ text ∈ rest.head?, a.Loses text (resultIn (a.ask (a.compiler.request text)) w₀)) ∧
      Logs (a.logged.batchFrom format index texts) (a.batchFrom format index texts) w
        calls.flatten ∧
      List.Forall₂ (fun text calls =>
        ¬a.Loses text (resultIn (a.ask (a.compiler.request text)) w₀) ∧
        a.CallsFor text (resultIn (a.ask (a.compiler.request text)) w₀) calls) asked calls := by
  induction texts generalizing index w with
  | nil => exact ⟨[], [], [], rfl, nofun, Logs.pure _ _, .nil⟩
  | cons text texts ih =>
    have hsaid : a.answerIn text w = resultIn (a.ask (a.compiler.request text)) w₀ :=
      hsteady.asks _ _ w₀
    rw [batchFrom_cons, batchFrom_cons]
    rcases query_cases (a := a) text format a.defaults w with
      ⟨hloses, hquery, hlogs⟩ | ⟨hloses, e, calls, hquery, hlogs, hcalls⟩
    · refine ⟨[], text :: texts, [], rfl, ?_, hlogs.bind_nil ?_, .nil⟩
      · rintro _ ⟨⟩
        exact hsaid ▸ hloses
      · rw [hquery]
        exact Logs.pure _ _
    · obtain ⟨asked, rest, later, rfl, hrest, hlater, hasked⟩ :=
        ih (index + 1) (worldAfter (a.query text format a.defaults) w)
      refine ⟨text :: asked, rest, calls :: later, rfl, hrest, ?_,
        .cons ⟨hsaid ▸ hloses, hsaid ▸ hcalls⟩ hasked⟩
      rw [List.flatten_cons]
      refine hlogs.bind ?_
      rw [hquery]
      exact hlater.map _

/-- A batch is lost as a whole exactly if a request of it is.  Otherwise it gives one answer for
each request, in their order, and each with its place; but for names and times it is the answer to a
query alone, so it does not change with the other requests while the batch is not lost.  The
requests before the first lost one reach the engine in their order too, each with its main statement
or not at all. -/
theorem batch_isolates (hsteady : a.Steady) (texts : List String) (format : Option Format)
    (w : σ) :
    ((∃ x, resultIn (a.batch texts format) w = .error x) ↔
      ∃ text ∈ texts, a.Loses text (resultIn (a.ask (a.compiler.request text)) w)) ∧
    (∀ es, resultIn (a.batch texts format) w = .ok es →
      es.length = texts.length ∧
      (∀ (i : Nat) text e, texts[i]? = some text → es[i]? = some e →
        e.batchIndex = some (i + 1) ∧ ∀ w', ∃ alone,
          resultIn (a.query text format a.defaults) w' = .ok alone ∧
          e.timeless = (alone.withBatchIndex (i + 1)).timeless) ∧
      ∀ (j : Nat) text w' es', resultIn (a.batch (texts.set j text) format) w' = .ok es' →
        ∀ i : Nat, i ≠ j → es'[i]?.map Envelope.timeless = es[i]?.map Envelope.timeless) ∧
    ∃ asked rest calls, texts = asked ++ rest ∧
      (∀ text ∈ rest.head?, a.Loses text (resultIn (a.ask (a.compiler.request text)) w)) ∧
      Logs (a.logged.batch texts format) (a.batch texts format) w calls.flatten ∧
      List.Forall₂ (fun text calls =>
        ¬a.Loses text (resultIn (a.ask (a.compiler.request text)) w) ∧
        a.CallsFor text (resultIn (a.ask (a.compiler.request text)) w) calls) asked calls := by
  refine ⟨batchFrom_lost_iff hsteady format 1 texts w w, fun es hes => ⟨?_, ?_, ?_⟩,
    logs_batchFrom hsteady format 1 texts w w⟩
  · have hlength := congrArg List.length (batchFrom_answers hsteady hes w)
    rwa [List.length_map, List.length_mapIdx] at hlength
  · intro i text e htext he
    have hplace (w' : σ) : .ok e.timeless = a.alone format w' (i + 1) text := by
      have h := batch_answer hsteady hes w' i
      rw [he, htext] at h
      exact Option.some.inj h
    have hindex (w' : σ) : ∃ alone, resultIn (a.query text format a.defaults) w' = .ok alone ∧
        e.timeless = (alone.withBatchIndex (i + 1)).timeless := by
      obtain ⟨alone, hquery, halone⟩ := map_eq_ok.mp (hplace w').symm
      exact ⟨alone, hquery, halone.symm⟩
    obtain ⟨alone, -, he'⟩ := hindex w
    exact ⟨congrArg Envelope.batchIndex he', hindex⟩
  · intro j text w' es' hes' i hne
    have hset := batch_answer hsteady hes' w i
    rw [List.getElem?_set_ne hne.symm, ← batch_answer hsteady hes w i] at hset
    have hok : Function.Injective (@Except.ok Abort Envelope) :=
      fun _ _ => Except.ok.inj
    apply Option.map_injective hok
    rwa [Option.map_map, Option.map_map]

/-- An agent whose model fails, over an engine on which grouped statements fail. -/
def steadyAgent : Agent (StateM Rehearsal) :=
  { rehearsed true with
    backend := Script.backend ⟨.hive, some "GROUP BY", ["city"], [[("city", .str "Paris")]], 1⟩
    ask := fun _ => pure (.error (.model (.request "scripted failure"))) }

theorem steady_steadyAgent : steadyAgent.Steady where
  asks _ _ _ := rfl
  runs sql t t' w w' := by
    show Outcome.timeless (Script.outcome _ sql t.config.id) =
      Outcome.timeless (Script.outcome _ sql t'.config.id)
    unfold Script.outcome
    split <;> rfl

/-- The first of two requests fails on the engine, and the second does not. -/
theorem batch_isolates_rehearsed : ∃ es,
    resultIn (steadyAgent.batch ["number of users per city", "all users"] none)
      ⟨[], false, []⟩ = .ok es ∧ es.length = 2 ∧
    ∀ (i : Nat) text e, ["number of users per city", "all users"][i]? = some text →
      es[i]? = some e → e.batchIndex = some (i + 1) ∧ ∀ w', ∃ alone,
        resultIn (steadyAgent.query text none .default) w' = .ok alone ∧
        e.timeless = (alone.withBatchIndex (i + 1)).timeless := by
  obtain ⟨hlost, hanswers, -⟩ := batch_isolates steady_steadyAgent
    ["number of users per city", "all users"] none ⟨[], false, []⟩
  have hday : steadyAgent.compiler.today ≠ Date.first := by decide
  cases hes : resultIn (steadyAgent.batch ["number of users per city", "all users"] none)
      ⟨[], false, []⟩ with
  | error x =>
    obtain ⟨text, -, hloses⟩ := hlost.mp ⟨x, hes⟩
    exact absurd hloses.first hday
  | ok es =>
    obtain ⟨hlength, hplaces, -⟩ := hanswers es hes
    exact ⟨es, rfl, hlength, hplaces⟩

/-- The agent on the first day of the calendar. -/
def firstDayAgent : Agent (StateM Rehearsal) :=
  { steadyAgent with compiler := .firstDay }

theorem steady_firstDayAgent : firstDayAgent.Steady :=
  ⟨steady_steadyAgent.asks, steady_steadyAgent.runs⟩

/-- A request for yesterday leaves the batch without any answer, though the other request of it has
one when it is asked alone. -/
theorem batch_lost : firstDayAgent.Steady ∧ firstDayAgent.connected = true ∧
    (∃ e, resultIn (firstDayAgent.query "all users" none .default) ⟨[], false, []⟩ = .ok e) ∧
    ¬∃ es, resultIn (firstDayAgent.batch ["users of yesterday", "all users"] none)
      ⟨[], false, []⟩ = .ok es := by
  refine ⟨steady_firstDayAgent, rfl, ?_, ?_⟩
  · have hcompiles : ((firstDayAgent.compiler.compile "all users"
        (firstDayAgent.answerIn "all users" ⟨[], false, []⟩)).toOption.map fun _ => ()) =
        some () := by decide +kernel
    obtain ⟨q, hq, -⟩ := exists_ok_of_map hcompiles
    obtain ⟨_, e, he, -⟩ := query_ends hq none .default
    exact ⟨e, he⟩
  · rintro ⟨es, hes⟩
    have hloses : firstDayAgent.Loses "users of yesterday"
        (.error (.model (.request "scripted failure"))) :=
      ⟨rfl, rfl, .inl ⟨by decide +kernel, by decide +kernel⟩⟩
    have hlost := batchFrom_lost_iff steady_firstDayAgent none 1
      ["users of yesterday", "all users"] ⟨[], false, []⟩ ⟨[], false, []⟩
    obtain ⟨x, hx⟩ := hlost.mpr ⟨_, List.mem_cons_self, hloses⟩
    cases hx.symm.trans hes

end Agent

end QueryDesk
