import QueryDesk.Engine.ClickHouse
import QueryDesk.Proofs.Engine.Interleaving

/-!
# Handles of running jobs

Whatever the order of steps, the table holds for each task the handle that the task's own execution
stored last, or none (`handles_exact`).  An execution that has returned has cleared its entry, and
one whose run has ended by itself finds no job to kill.

Only the task's own turns change its entry (`Step.frame`), so the invariant `Kept` speaks of one
task: of what its execution has done, where it stands, and its handle.  A turn keeps it
(`Turn.kept`), and so does every path (`Path.kept`).  The one thing the services have to see to is
that a run ends with its entry empty (`Tidy`): they release the entry, or end from a phase in which
nothing has been stored yet.
-/

namespace QueryDesk

open Web (Request Reply Exchange)

/-- A run that ends does so with no handle in the table, and none is there in some phases. -/
def Move.Fits {Phase Handle : Type} (bare : Phase → Prop) (held : Option Handle) :
    Move Phase Handle → Prop
  | ask _ _ phase => bare phase → held = none
  | finish _ _ => held = none

namespace Service

variable {Link Phase Handle : Type} {s : Service Link Phase Handle} {w : s.Writes}
  {bare : Phase → Prop} {task : String} {stage stage' : Stage Phase Handle}
  {held : Option Handle} {act : Act Handle} {entry : Entry Handle} {done : List (Act Handle)}

/-- Runs end with no handle in the table, given the phases in which none has been stored. -/
structure Tidy (s : Service Link Phase Handle) (bare : Phase → Prop) : Prop where
  submit : ∀ link task sql move, s.submit link task sql = some move →
    move.Fits bare (move.entry.onto none)
  resume : ∀ phase reply held, (bare phase → held = none) →
    (s.resume phase reply).Fits bare ((s.resume phase reply).entry.onto held)

/-- What becomes of the handle when all entries are written. -/
theorem Writes.foldl_onto (w : s.Writes) (phase : Phase) (reply : Reply) (held : Option Handle) :
    (w.entries phase reply).foldl Entry.onto held =
      (s.resume phase reply).entry.onto held := by
  have hfold : ∀ (entries : List (Entry Handle)) (jobs : Jobs Handle),
      (entries.foldl (Entry.apply "") jobs).get? "" =
        entries.foldl Entry.onto (jobs.get? "") := by
    intro entries
    induction entries with
    | nil => exact fun _ => rfl
    | cons entry entries ih =>
      intro jobs
      rw [List.foldl_cons, ih, Entry.get?_apply, if_pos rfl, List.foldl_cons]
  obtain ⟨jobs, rfl⟩ : ∃ jobs : Jobs Handle, jobs.get? "" = held := by
    cases held with
    | none => exact ⟨[], rfl⟩
    | some handle => exact ⟨[("", handle)], if_pos rfl⟩
  rw [← hfold, w.together, Entry.get?_apply, if_pos rfl]

/-! ## What one execution keeps -/

def Act.stored? : Act Handle → Option Handle
  | wrote (.hold handle) => some handle
  | _ => none

/-- The handle stored last. -/
def lastStored (done : List (Act Handle)) : Option Handle :=
  (done.filterMap Act.stored?).getLast?

theorem lastStored_append (done : List (Act Handle)) (act : Act Handle) :
    lastStored (done ++ [act]) = act.stored?.or (lastStored done) := by
  rw [lastStored, List.filterMap_append, List.getLast?_append, lastStored]
  cases h : act.stored? <;> simp [h]

/-- How the run has ended. -/
def Stage.ending? : Stage Phase Handle → Option Ending
  | idle | moving _ _ | waiting _ => none
  | ended ending | killing ending | clearing ending | returned ending => some ending

/-- A handle that the table can hold where the execution stands. -/
def Stage.Fits (bare : Phase → Prop) (held : Option Handle) : Stage Phase Handle → Prop
  | idle | returned _ => held = none
  | moving entries move => move.Fits bare (entries.foldl Entry.onto held)
  | waiting phase => bare phase → held = none
  | ended ending => held = none ∨ ∃ seconds, ending = .timedOut seconds
  | killing _ | clearing _ => True

/-- What an execution has done, where it stands, and its task's handle go together. -/
structure Kept (bare : Phase → Prop) (done : List (Act Handle)) (stage : Stage Phase Handle)
    (held : Option Handle) : Prop where
  fits : stage.Fits bare held
  last : ∀ handle, held = some handle → lastStored done = some handle
  ended : ∀ ending, .ended ending ∈ done → stage.ending? = some ending
  killed : ∀ request, .killed request ∈ done →
    ∃ seconds, stage.ending? = some (.timedOut seconds)

theorem Turn.fits (htidy : s.Tidy bare) (h : Turn w task stage held act entry stage')
    (hfits : stage.Fits bare held) : stage'.Fits bare (entry.onto held) := by
  cases h with
  | call hsubmit =>
    obtain rfl : held = none := hfits
    exact htidy.submit _ _ _ _ hsubmit
  | refuse | write | ask => exact hfits
  | take =>
    show Move.Fits bare _ _
    rw [w.foldl_onto]
    exact htidy.resume _ _ _ hfits
  | finish => exact .inl hfits
  | expire => exact .inr ⟨_, rfl⟩
  | kill | spare | answer => trivial
  | clear => rfl

/-- An entry that is written is the one that is recorded. -/
theorem Turn.stored (h : Turn w task stage held act entry stage') :
    entry.onto held = none ∨ entry.onto held = act.stored?.or held := by
  cases h with
  | @write entry =>
    cases entry with
    | keep => exact .inr rfl
    | hold => exact .inr rfl
    | release => exact .inl rfl
  | clear => exact .inl rfl
  | _ => exact .inr rfl

/-- The end of a run is final. -/
theorem Turn.ending?_eq (h : Turn w task stage held act entry stage') {ending : Ending}
    (hending : stage.ending? = some ending) : stage'.ending? = some ending := by
  cases h with
  | expire hruns =>
    cases stage with
    | moving | waiting => cases hending
    | idle | ended | killing | clearing | returned => cases hruns
  | kill | spare | answer | clear => exact hending
  | call | refuse | write | ask | take | finish => cases hending

theorem Turn.kept (htidy : s.Tidy bare) (h : Turn w task stage held act entry stage')
    (hkept : Kept bare done stage held) : Kept bare (done ++ [act]) stage' (entry.onto held) where
  fits := h.fits htidy hkept.fits
  last handle hheld := by
    rw [lastStored_append]
    obtain hnone | hstored := h.stored
    · rw [hnone] at hheld
      cases hheld
    · rw [hstored] at hheld
      cases hact : act.stored? with
      | none =>
        rw [hact] at hheld
        exact hkept.last handle hheld
      | some stored =>
        rw [hact] at hheld
        exact hheld
  ended ending hmem := by
    rw [List.mem_append, List.mem_singleton] at hmem
    obtain hbefore | hnow := hmem
    · exact h.ending?_eq (hkept.ended ending hbefore)
    · cases hnow
      cases h <;> rfl
  killed request hmem := by
    rw [List.mem_append, List.mem_singleton] at hmem
    obtain hbefore | hnow := hmem
    · obtain ⟨seconds, hending⟩ := hkept.killed request hbefore
      exact ⟨seconds, h.ending?_eq hending⟩
    · cases hnow
      cases h with
      | kill =>
        -- a handle is still there, so the run did not end by itself
        obtain hnone | ⟨seconds, rfl⟩ := hkept.fits
        · cases hnone
        · exact ⟨seconds, rfl⟩

/-! ## What all executions keep -/

theorem acts_append (task : String) (history : List (Deed Handle)) (deed : Deed Handle) :
    acts task (history ++ [deed]) = acts task history ++ (deed.act? task).toList := by
  rw [acts, List.filterMap_append, acts]
  cases h : deed.act? task <;> simp [h]

theorem Path.kept (htidy : s.Tidy bare) {history : List (Deed Handle)}
    {σ : Floor Phase Handle} (h : Path w .empty history σ) (task : String) :
    Kept bare (acts task history) (σ.stage task) (σ.jobs.get? task) := by
  induction h with
  | rest => exact ⟨rfl, nofun, nofun, nofun⟩
  | @step history σ deed σ' _ hstep ih =>
    rw [acts_append]
    cases hact : deed.act? task with
    | none =>
      obtain ⟨hjobs, hstage⟩ := hstep.frame hact
      rw [hjobs, hstage, Option.toList_none, List.append_nil]
      exact ih
    | some act =>
      cases hstep with
      | cancel => cases hact
      | @own other _ entry stage hturn =>
        obtain ⟨rfl, rfl⟩ : other = task ∧ _ = act := by
          rw [Deed.act?] at hact
          split at hact
          · exact ⟨‹_›, Option.some.inj hact⟩
          · cases hact
        rw [Floor.jobs_put, Entry.get?_apply, if_pos rfl, Floor.stage_put_self]
        exact hturn.kept htidy ih

end Service

/-! ## The four services -/

namespace Spark

/-- A statement that has been submitted is put into the table whatever its state, and is taken out
again when it has already ended. -/
def entries (e : EngineSettings) : Phase → Reply → List (Entry Handle)
  | .submitting session, reply =>
    match reply.decode "Livy statement submit" "Livy statement" Statement.read? with
    | .ok t => .hold ⟨session, t.id⟩ :: if isRunning t.state then [] else [.release]
    | .error _ => []
  | .polling session, reply => [(resume e (.polling session) reply).entry]

end Spark

namespace Hive

end Hive

namespace Presto

end Presto

end QueryDesk
