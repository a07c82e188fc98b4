import QueryDesk.Engine.ClickHouse
import QueryDesk.Engine.Hive.Service
import QueryDesk.Engine.Presto.Service
import QueryDesk.Engine.Spark.Statement
import QueryDesk.Proofs.Engine.Conversations
import QueryDesk.Proofs.Sql.Endings
import QueryDesk.Proofs.Sql.Generation

/-!
# What engines are asked to run

A run of a generated statement on a connected engine starts with the request that carries the
statement, character by character, in the frame of the engine.  What is asked later carries nothing,
or it is the kill of the job (`generate_reaches_engines`).  The trimming that three of the engines
do is harmless since statements end firmly (`Statement.bareStatement_sql`).
-/

namespace QueryDesk

open Web (Request Reply Exchange Content)

namespace Service

variable {Link Phase Handle : Type} {s : Service Link Phase Handle} {link : Link}
  {task sql : String}

/-- The request carries nothing, or it is the kill of a job. -/
def IsFollowUp (s : Service Link Phase Handle) (request : Request) : Prop :=
  request.content = .empty ∨ ∃ handle, request = s.kill handle

/-- A run of the statement is started by a request with this content.  Whatever is answered, it is
the first request that is sent, and nothing that is sent later has any content but the kill of the
job. -/
def Submits (s : Service Link Phase Handle) (link : Link) (task sql : String)
    (content : Content) : Prop :=
  ∃ request : Request, request.content = content ∧
    (∀ jobs, ∃ phase, (s.start link task sql jobs).2 = .waiting request phase) ∧
    ∀ patience seconds jobs replies, ∃ later,
      ((s.execute patience link task seconds sql jobs).play replies).1 = request :: later ∧
        ∀ r ∈ later, s.IsFollowUp r

theorem submits_of_ask {entry : Entry Handle} {request : Request} {phase : Phase}
    (hsubmit : s.submit link task sql = some (.ask entry request phase))
    (hresume : ∀ phase reply, (s.resume phase reply).Asks s.IsFollowUp) :
    s.Submits link task sql request.content := by
  refine ⟨request, rfl, fun jobs => ⟨phase, ?_⟩, fun patience seconds jobs replies => ?_⟩
  · rw [start_of_submit hsubmit]
  · obtain ⟨next, hexecute, hnext⟩ := exists_execute_eq_ask hresume
      (fun handle => Or.inr ⟨handle, rfl⟩) hsubmit patience seconds jobs
    rw [hexecute]
    cases replies with
    | nil => exact ⟨[], rfl, fun _ h => absurd h List.not_mem_nil⟩
    | cons reply rest => exact ⟨_, rfl, (hnext reply).of_play rest⟩

end Service

/-! ## The engines -/

namespace Spark

theorem submits (e : EngineSettings) (session : UInt64) (task sql : String) :
    (service e).Submits (some session) task sql
      (.json (.obj [("code", .str sql), ("kind", .str "sql")])) := by
  have hadvance : ∀ session entry t, (advance e session entry t).Asks (service e).IsFollowUp := by
    intro session entry t
    rw [advance]
    split
    · exact Or.inl rfl
    · trivial
  have hcontent : (submitRequest e session sql).content =
      .json (.obj [("code", .str sql), ("kind", .str "sql")]) := rfl
  rw [← hcontent]
  refine Service.submits_of_ask rfl fun phase reply => ?_
  show (resume e phase reply).Asks _
  cases phase with
  | submitting session =>
    rw [resume]
    split
    · exact hadvance session _ _
    · trivial
  | polling session =>
    rw [resume]
    split
    · exact hadvance session _ _
    · trivial

end Spark

namespace Presto

theorem submits (e : EngineSettings) (task sql : String) :
    (service e).Submits true task sql (.text (bareStatement sql)) := by
  have hadvance : ∀ soFar p, (advance e soFar p).Asks (service e).IsFollowUp := by
    intro soFar p
    rw [advance]
    split
    · trivial
    · split
      · exact Or.inl rfl
      · trivial
  have hcontent : (submitRequest e sql).content = .text (bareStatement sql) := rfl
  rw [← hcontent]
  refine Service.submits_of_ask rfl fun phase reply => ?_
  show (resume e phase reply).Asks _
  cases phase with
  | submitting =>
    rw [resume]
    split
    · exact hadvance _ _
    · trivial
  | following soFar =>
    rw [resume]
    split
    · exact hadvance soFar _
    · trivial

end Presto

namespace ClickHouse

theorem content_authorized (e : EngineSettings) (r : Request) :
    (authorized e r).content = r.content := by
  rw [authorized]
  split <;> split <;> rfl

theorem submits (e : EngineSettings) (task sql : String) :
    (service e).Submits true task sql (.text (bareStatement sql ++ " FORMAT JSON")) := by
  have hcontent : (statementRequest e task sql).content =
      .text (bareStatement sql ++ " FORMAT JSON") := content_authorized e _
  rw [← hcontent]
  exact Service.submits_of_ask rfl fun _ _ => trivial

end ClickHouse

namespace Hive

/-- The line of a script that chooses the configured database. -/
def useLine (e : EngineSettings) : String :=
  match e.database with
  | some database => "use " ++ database ++ ";\n"
  | none => ""

theorem submits (e : EngineSettings) (task sql : String) :
    (service e).Submits true task sql (.form [userField e,
      ("execute", "set hive.cli.print.header=true;\n" ++ useLine e ++ bareStatement sql ++ ";"),
      ("statusdir", statusDirectory e task)]) := by
  have hcontent : (submitRequest e (statusDirectory e task) sql).content =
      .form [userField e,
        ("execute", "set hive.cli.print.header=true;\n" ++ useLine e ++ bareStatement sql ++ ";"),
        ("statusdir", statusDirectory e task)] := rfl
  rw [← hcontent]
  refine Service.submits_of_ask rfl fun phase reply => ?_
  show (resume e phase reply).Asks _
  cases phase with
  | submitting directory =>
    rw [resume]
    split
    · exact Or.inl rfl
    · trivial
  | polling directory job =>
    rw [resume]
    split
    · rw [advance]
      split
      · split
        · trivial
        · exact Or.inl rfl
      · split
        · trivial
        · split
          · trivial
          · exact Or.inl rfl
    · trivial
  | reading => trivial

end Hive

/-! ## Generated statements -/

/-- Engines that are connected are asked to run the statement as it stands, each in a frame of its
own. -/
structure ReachesEngines (sql : String) : Prop where
  untrimmed : bareStatement sql = sql
  spark : ∀ e session task, (Spark.service e).Submits (some session) task sql
    (.json (.obj [("code", .str sql), ("kind", .str "sql")]))
  presto : ∀ e task, (Presto.service e).Submits true task sql (.text sql)
  clickHouse : ∀ e task, (ClickHouse.service e).Submits true task sql
    (.text (sql ++ " FORMAT JSON"))
  hive : ∀ e task, (Hive.service e).Submits true task sql (.form [Hive.userField e,
    ("execute", "set hive.cli.print.header=true;\n" ++ Hive.useLine e ++ sql ++ ";"),
    ("statusdir", Hive.statusDirectory e task)])

theorem reachesEngines_of_bare {sql : String} (h : bareStatement sql = sql) :
    ReachesEngines sql where
  untrimmed := h
  spark e session task := Spark.submits e session task sql
  presto e task := by
    have hsubmits := Presto.submits e task sql
    rwa [h] at hsubmits
  clickHouse e task := by
    have hsubmits := ClickHouse.submits e task sql
    rwa [h] at hsubmits
  hive e task := by
    have hsubmits := Hive.submits e task sql
    rwa [h] at hsubmits

namespace Sql.Generator

/-- What is generated is what engines are asked to run. -/
theorem generate_reaches_engines {g : Generator} {q : Query} {d : Dialect} {b : SqlBundle}
    (h : g.generate q d = .ok b) :
    ∀ sql ∈ [b.sql, b.countSql, b.sampleSql], ReachesEngines sql := by
  obtain ⟨s, -, -, rfl⟩ := generate_eq_ok_iff.mp h
  simp only [List.forall_mem_cons]
  exact ⟨reachesEngines_of_bare s.main.bareStatement_sql,
    reachesEngines_of_bare s.count.bareStatement_sql,
    reachesEngines_of_bare s.sample.bareStatement_sql, fun _ h => absurd h List.not_mem_nil⟩

/-- A query whose statements end in a literal with semicolons and blanks at its end. -/
def trailingQuery : Query :=
  .ofTable "visits" [⟨"page", .like, .single (.text "; DROP; \n;"), .and⟩] none none

theorem generate_reaches_engines_trailing : ∃ b,
    (Generator.mk 5 Date.first).generate trailingQuery .presto = .ok b ∧
      ∀ sql ∈ [b.sql, b.countSql, b.sampleSql], ReachesEngines sql := by
  obtain ⟨b, hb⟩ := isOk_iff_exists.mp (show ((Generator.mk 5 Date.first).generate
    trailingQuery .presto).isOk = true by decide +kernel)
  exact ⟨b, hb, generate_reaches_engines hb⟩

end Sql.Generator

end QueryDesk
