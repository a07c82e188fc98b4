import QueryDesk.Proofs.Agent.Answering

/-!
# Work on statements

Whatever an agent is asked, apart from connecting and disconnecting, it calls its engine for
statements only, and only while it is connected.  `Works` composes as `Logs` does, and so follows
the branches of the operations down to the two calls that run a statement, which are behind the
flag.
-/

namespace QueryDesk

variable {σ α β : Type}

/-- Work that calls the engine for nothing but statements, and not at all without the flag. -/
def Works (connected : Bool) (x : Logged σ α) (y : StateM σ α) (w : σ) : Prop :=
  ∃ events, Logs x y w events ∧ ∀ event ∈ events, event.isStatement = true ∧ connected = true

namespace Works

variable {connected : Bool} {x : Logged σ α} {y : StateM σ α} {w : σ}

theorem of_logs (h : Logs x y w []) : Works connected x y w :=
  ⟨[], h, fun _ hevent => absurd hevent List.not_mem_nil⟩

theorem pure (a : α) : Works connected (Pure.pure a : Logged σ α) (Pure.pure a) w :=
  of_logs (Logs.pure a w)

theorem lift (y : StateM σ α) : Works connected (StateT.lift y) y w := of_logs (Logs.lift y w)

theorem call (y : StateM σ α) (event : α → Event)
    (hstatement : (event (resultIn y w)).isStatement = true) (hconnected : connected = true) :
    Works connected (Logged.call y event) y w := by
  refine ⟨_, Logs.call y event w, fun e he => ?_⟩
  rw [List.mem_singleton.mp he]
  exact ⟨hstatement, hconnected⟩

theorem bind {f : α → Logged σ β} {g : α → StateM σ β} (hx : Works connected x y w)
    (hf : Works connected (f (resultIn y w)) (g (resultIn y w)) (worldAfter y w)) :
    Works connected (x >>= f) (y >>= g) w := by
  obtain ⟨events, hlogs, hevents⟩ := hx
  obtain ⟨events', hlogs', hevents'⟩ := hf
  refine ⟨events ++ events', hlogs.bind hlogs', fun event hevent => ?_⟩
  rcases List.mem_append.mp hevent with h | h
  · exact hevents event h
  · exact hevents' event h

theorem map (hx : Works connected x y w) (f : α → β) :
    Works connected (f <$> x) (f <$> y) w := by
  rw [map_eq_pure_bind, map_eq_pure_bind]
  exact hx.bind (pure _)

end Works

namespace Agent

section Working

variable {a : Agent (StateM σ)} {w : σ}

theorem works_dispatch (hconnected : a.connected = true) (t : Task) (sql : String) :
    Works a.connected (a.logged.dispatch t sql) (a.dispatch t sql) w := by
  unfold dispatch
  cases t.transition .running with
  | error f => exact .pure _
  | ok t =>
    refine .bind (.call _ _ rfl hconnected) ?_
    split
    · exact .pure _
    · exact .pure _

theorem works_answer (hconnected : a.connected = true) (text : String) (format : Option Format)
    (opts : QueryOptions) (started : Float) :
    Works a.connected (a.logged.answer text format opts started)
      (a.answer text format opts started) w := by
  unfold answer
  refine .bind (.of_logs (logs_compile text w)) ?_
  cases resultIn (a.compile text) w with
  | error f => exact .pure _
  | ok q =>
    refine .bind (.of_logs (logs_newTask q opts _)) ?_
    cases resultIn (a.newTask q opts) (worldAfter (a.compile text) w) with
    | error f => exact .pure _
    | ok t =>
      refine .bind (works_dispatch hconnected t _) ?_
      split
      · exact .pure _
      · exact .bind (.of_logs (logs_present _ _ _ _ _ _ _)) (.pure _)

theorem works_guarded {format : Format} {x : Float → Logged σ (Except Halt Report.Envelope)}
    {y : Float → StateM σ (Except Halt Report.Envelope)}
    (hxy : a.connected = true → ∀ started w, Works a.connected (x started) (y started) w) :
    Works a.connected (a.logged.guarded format x) (a.guarded format y) w := by
  cases hconnected : a.connected with
  | false => exact .of_logs (logs_guarded_of_disconnected hconnected)
  | true =>
    obtain ⟨events, hlogs, hevents⟩ := hxy hconnected (resultIn a.clock.seconds w)
      (worldAfter a.clock.seconds w)
    rw [hconnected] at hevents
    exact ⟨events, logs_guarded hconnected hlogs, hevents⟩

theorem works_query (text : String) (format : Option Format) (opts : QueryOptions) :
    Works a.connected (a.logged.query text format opts) (a.query text format opts) w := by
  rw [query_eq, query_eq]
  exact works_guarded fun hconnected started _ => works_answer hconnected text format opts started

theorem works_sample (hconnected : a.connected = true) (text : String) (size : UInt64) :
    Works a.connected (a.logged.sample text size) (a.sample text size) w := by
  unfold sample
  refine .bind (.of_logs (logs_compile text w)) ?_
  cases resultIn (a.compile text) w with
  | error f => exact .pure _
  | ok q =>
    refine .bind (.of_logs (logs_newTask q a.defaults _)) ?_
    cases resultIn (a.newTask q a.defaults) (worldAfter (a.compile text) w) with
    | error f => exact .pure _
    | ok t =>
      have hlogged : { a.logged.tasks.generator with sampleSize := size }.generate q
          a.logged.kind.dialect =
          { a.tasks.generator with sampleSize := size }.generate q a.kind.dialect := rfl
      rw [hlogged]
      cases { a.tasks.generator with sampleSize := size }.generate q a.kind.dialect with
      | error f => exact .pure _
      | ok bundle =>
        refine .bind (works_dispatch hconnected t _) ?_
        split
        · exact .pure _
        · exact .bind (.lift _) (.pure _)

theorem works_preview (text : String) (size : UInt64) :
    Works a.connected (a.logged.preview text size) (a.preview text size) w := by
  rw [preview_eq, preview_eq]
  exact works_guarded fun hconnected _ _ => works_sample hconnected text size

theorem works_estimate (text : String) :
    Works a.connected (a.logged.estimate text) (a.estimate text) w := by
  unfold estimate
  refine .bind (.of_logs (logs_compile text w)) ?_
  cases resultIn (a.compile text) w with
  | error f => exact .pure _
  | ok q =>
    refine .bind (.of_logs (logs_newTask q a.defaults _)) ?_
    cases resultIn (a.newTask q a.defaults) (worldAfter (a.compile text) w) with
    | error f => exact .pure _
    | ok t =>
      dsimp only
      by_cases hconnected : a.connected = true
      · have hlogged : a.logged.connected = true := hconnected
        rw [if_pos hconnected, if_pos hlogged]
        exact .bind (.map (.call _ (.counted t.sql.countSql t) rfl hconnected) some) (.pure _)
      · have hlogged : ¬a.logged.connected = true := hconnected
        rw [if_neg hconnected, if_neg hlogged]
        exact .bind (.pure _) (.pure _)

theorem works_batch (texts : List String) (format : Option Format) (index : Nat) :
    Works a.connected (a.logged.batchFrom format index texts) (a.batchFrom format index texts)
      w := by
  induction texts generalizing index w with
  | nil => exact .pure _
  | cons text texts ih =>
    refine .bind (works_query text format a.defaults) ?_
    split
    · exact .pure _
    · exact .bind (ih (index + 1)) (.pure _)

theorem works_status : Works a.connected a.logged.status a.status w :=
  .bind (.lift _) (.bind (.lift _) (.pure _))

end Working

end Agent

end QueryDesk
