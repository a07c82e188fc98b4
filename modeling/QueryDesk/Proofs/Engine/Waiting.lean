import QueryDesk.Engine.Hive.Service
import QueryDesk.Engine.Presto.Service
import QueryDesk.Engine.Spark.Statement
import QueryDesk.Proofs.Engine.Runs

/-!
# Waiting does not change the answer

Replies that only say that a statement still runs leave no trace in its outcome
(`stalls_unseen`).  The argument is a simulation.  Such a reply keeps the phase of the run; it
changes at most the job in the table and the request that is waited for.  So the delayed run stands
in the same phase as the original, with tables that agree but for the task (`play_sim`), and from a
phase in which a service polls, every end releases the task's job.
-/

namespace QueryDesk

open Web (Request Reply)

/-! ## Tables that agree but for a task -/

namespace Jobs

variable {Handle : Type}

theorem erase_erase (task : String) (jobs : Jobs Handle) :
    erase task (erase task jobs) = erase task jobs := by
  induction jobs with
  | nil => rfl
  | cons entry rest ih =>
    obtain ⟨key, handle⟩ := entry
    by_cases hkey : key = task
    · rw [erase, if_pos hkey, ih]
    · rw [erase, if_neg hkey, erase, if_neg hkey, ih]

theorem erase_insert (task : String) (handle : Handle) (jobs : Jobs Handle) :
    erase task (insert task handle jobs) = erase task jobs := by
  rw [insert, erase, if_pos rfl, erase_erase]

end Jobs

theorem Entry.erase_apply {Handle : Type} (task : String) (jobs : Jobs Handle)
    (entry : Entry Handle) : (entry.apply task jobs).erase task = jobs.erase task := by
  cases entry with
  | keep => rfl
  | hold handle => exact Jobs.erase_insert task handle jobs
  | release => exact Jobs.erase_erase task jobs

/-! ## Delayed runs -/

/-- A move that releases the task's job if it ends the run, and else leads to one of the phases. -/
def Move.Stays {Phase Handle : Type} (reached : Phase → Prop) : Move Phase Handle → Prop
  | .finish entry _ => entry = .release
  | .ask _ _ phase => reached phase

namespace Service

variable {Link Phase Handle : Type} (s : Service Link Phase Handle)

/-- From the phases that have been reached, a run stays in them or ends with its job released. -/
def Releases (reached : Phase → Prop) : Prop :=
  ∀ phase reply, reached phase → (s.resume phase reply).Stays reached

variable {s} {reached : Phase → Prop} {task : String} {seconds : Nat}

/-- Two runs in the same phase end alike, when their tables agree but for the task. -/
theorem play_sim (hreleases : s.Releases reached) {patience : Nat} {jobs jobs₁ : Jobs Handle}
    {request : Request} {phase : Phase} (hphase : reached phase) {replies : List Reply}
    {requests : List Request} {ending : Ending}
    (hplay : (s.converse task seconds patience jobs (.waiting request phase)).play replies =
      (requests, some (jobs₁, some ending))) (hending : ending ≠ .timedOut seconds) :
    ∃ later, requests = request :: later ∧ jobs₁.get? task = none ∧
      ∀ patience' jobs' request', later.length < patience' →
        Jobs.erase task jobs' = Jobs.erase task jobs →
        (s.converse task seconds patience' jobs' (.waiting request' phase)).play replies =
          (request' :: later, some (jobs₁, some ending)) := by
  induction patience generalizing jobs request phase replies requests with
  | zero => exact absurd (timedOut_of_no_patience hplay) hending
  | succ patience ih =>
    cases replies with
    | nil => cases hplay
    | cons reply rest =>
      have hstays := hreleases phase reply hphase
      cases hmove : s.resume phase reply with
      | finish entry result =>
        rw [hmove] at hstays
        obtain rfl : entry = .release := hstays
        have hnone : ∀ held : Jobs Handle, (Entry.release.apply task held).get? task = none := by
          intro held
          rw [Entry.apply, Jobs.get?_erase, if_pos rfl]
        rw [play_finish seconds hmove (hnone jobs)] at hplay
        cases hplay
        refine ⟨[], rfl, by rw [Jobs.get?_erase, if_pos rfl], ?_⟩
        intro patience' jobs' request' hpatience htable
        obtain ⟨spare, rfl⟩ := Nat.exists_eq_succ_of_ne_zero (Nat.ne_of_gt hpatience)
        rw [play_finish seconds hmove (hnone jobs'), Entry.erase_apply, Entry.erase_apply, htable]
      | ask entry next phase' =>
        rw [hmove] at hstays
        rw [play_ask seconds hmove, Prod.mk.injEq] at hplay
        obtain ⟨later, hlater, hnone, hsame⟩ := ih hstays (Prod.ext rfl hplay.2)
        refine ⟨next :: later, hplay.1.symm.trans (congrArg (request :: ·) hlater), hnone, ?_⟩
        intro patience' jobs' request' hpatience htable
        obtain ⟨spare, rfl⟩ := Nat.exists_eq_succ_of_ne_zero (Nat.ne_zero_of_lt hpatience)
        have hentry : (entry.apply task jobs').erase task = (entry.apply task jobs).erase task := by
          rw [Entry.erase_apply, Entry.erase_apply, htable]
        rw [play_ask seconds hmove, hsame spare _ next (Nat.lt_of_succ_lt_succ hpatience) hentry]

/-- Replies that keep a run in its phase, each answered by a poll, put the polls between the request
they came for and what is asked later. -/
theorem play_stalled {phase : Phase} {stalls : Reply → Request → Prop}
    (hstalls : ∀ reply poll, stalls reply poll →
      ∃ entry, s.resume phase reply = .ask entry poll phase)
    {extra : List Reply} {polls : List Request} (hextra : List.Forall₂ stalls extra polls)
    {jobs : Jobs Handle} {patience : Nat} {replies : List Reply} {later : List Request}
    {result : Option (Jobs Handle × Option Ending)}
    (hplay : ∀ jobs' request, Jobs.erase task jobs' = Jobs.erase task jobs →
      (s.converse task seconds patience jobs' (.waiting request phase)).play replies =
        (request :: later, result)) {jobs' : Jobs Handle}
    (htable : jobs'.erase task = jobs.erase task) (request : Request) :
    (s.converse task seconds (extra.length + patience) jobs' (.waiting request phase)).play
      (extra ++ replies) = (request :: polls ++ later, result) := by
  induction hextra generalizing jobs' request with
  | nil =>
    rw [List.length_nil, Nat.zero_add]
    exact hplay jobs' request htable
  | @cons reply poll extra polls hreply _ ih =>
    obtain ⟨entry, hask⟩ := hstalls reply poll hreply
    have hentry : (entry.apply task jobs').erase task = jobs.erase task := by
      rw [Entry.erase_apply, htable]
    have hlength : (reply :: extra).length + patience = (extra.length + patience) + 1 := by
      rw [List.length_cons]
      omega
    rw [hlength, List.cons_append, play_ask seconds hask, ih hentry poll]
    rfl

/-- Replies that only say that a statement still runs leave no trace.  They come while a run waits
for the reply to a poll, and each is answered by one more poll.  The run then ends as it would have
ended without them, so with the same outcome but for its time, and with the same requests before and
after, as long as the timeout is not reached; and no job of the task is left. -/
def StallsUnseen (s : Service Link Phase Handle) (polling : Phase → Prop)
    (stalls : Request → Phase → Reply → Request → Prop) : Prop :=
  ∀ (link : Link) (task : String) (seconds : Nat) (sql : String) (jobs : Jobs Handle)
    (patience : Nat) (before after : List Reply) (requests : List Request) (jobs₁ : Jobs Handle)
    (ending : Ending),
    (s.execute patience link task seconds sql jobs).play (before ++ after) =
      (requests, some (jobs₁, ending)) → ending ≠ .timedOut seconds →
    ∀ (jobs₀ : Jobs Handle) (request : Request) (phase : Phase),
      s.after task (s.start link task sql jobs) before = (jobs₀, .waiting request phase) →
      polling phase →
    ∀ (extra : List Reply) (polls : List Request),
      List.Forall₂ (stalls request phase) extra polls →
    ∀ patience', requests.length + extra.length ≤ patience' →
      (s.execute patience' link task seconds sql jobs).play (before ++ extra ++ after) =
        (requests.take (before.length + 1) ++ polls ++ requests.drop (before.length + 1),
          some (jobs₁, ending)) ∧
      jobs₁.get? task = none

theorem stallsUnseen_of_releases (hreleases : s.Releases reached) {polling : Phase → Prop}
    (hreached : ∀ phase, polling phase → reached phase)
    {stalls : Request → Phase → Reply → Request → Prop}
    (hstalls : ∀ request phase reply poll, stalls request phase reply poll →
      ∃ entry, s.resume phase reply = .ask entry poll phase) :
    s.StallsUnseen polling stalls := by
  intro link task seconds sql jobs patience before after requests jobs₁ ending hplayed hending
    jobs₀ request phase hafter hpolling extra polls hextra patience' hpatience
  rw [play_execute_iff s task seconds hending] at hplayed
  rw [play_execute_iff s task seconds hending]
  obtain ⟨spare, rfl⟩ := exists_patience hafter hplayed hending
  obtain ⟨asked, hasked, hsplit⟩ := play_append hafter
  rw [hsplit, Prod.mk.injEq] at hplayed
  -- from the poll on, the run ends alike whatever has become of the task's job
  obtain ⟨later, hlater, hnone, hsame⟩ := play_sim hreleases (hreached phase hpolling)
    (Prod.ext rfl hplayed.2) hending
  have hrequests : requests = (asked ++ [request]) ++ later := by
    rw [← hplayed.1, List.append_assoc, List.singleton_append]
    exact congrArg (asked ++ ·) hlater
  have hlength : (asked ++ [request]).length = before.length + 1 := by
    rw [List.length_append, hasked, List.length_singleton]
  obtain ⟨spent, hspent, rfl⟩ : ∃ spent, later.length < spent ∧
      patience' = before.length + (extra.length + spent) := by
    rw [hrequests, List.length_append, hlength] at hpatience
    exact ⟨patience' - before.length - extra.length, by omega, by omega⟩
  have hstalled := play_stalled (hstalls request phase) hextra
    (fun jobs' request' htable => hsame spent jobs' request' hspent htable) rfl request
  refine ⟨?_, hnone⟩
  rw [hrequests, List.take_left' hlength, List.drop_left' hlength, List.append_assoc before, hsplit]
  dsimp only
  rw [hstalled, List.append_assoc asked, List.append_assoc asked]
  rfl

end Service

/-! ## The three services that poll -/

namespace Spark

/-- The run waits for the state of its statement. -/
def Phase.IsPoll : Phase → Prop
  | polling _ => True
  | submitting _ => False

/-- The reply to the request for a statement's state says that it still runs; the statement is
asked for again. -/
def Stalls (e : EngineSettings) (request : Request) (phase : Phase) (reply : Reply)
    (poll : Request) : Prop :=
  ∃ session t, phase = .polling session ∧ reply.Holds Statement.read? t ∧
    t.state ∈ ["waiting", "running", "cancelling"] ∧
    request.url = statementUrl e ⟨session, t.id⟩ ∧ poll = (Request.get request.url).after .poll

theorem releases_service (e : EngineSettings) : (service e).Releases Phase.IsPoll := by
  intro phase reply hphase
  cases phase with
  | submitting => cases hphase
  | polling session =>
    show (resume e (.polling session) reply).Stays _
    rw [resume]
    cases reply.decode "Livy statement status" "Livy statement" Statement.read? with
    | error f => rfl
    | ok t =>
      show (advance e session .keep t).Stays _
      rw [advance]
      split
      · trivial
      · rfl

theorem stalls_service (e : EngineSettings) {request : Request} {phase : Phase} {reply : Reply}
    {poll : Request} (h : Stalls e request phase reply poll) :
    ∃ entry, (service e).resume phase reply = .ask entry poll phase := by
  obtain ⟨session, t, rfl, hholds, hstate, hurl, rfl⟩ := h
  have hrunning : isRunning t.state = true := List.contains_iff_mem.mpr hstate
  refine ⟨.keep, ?_⟩
  show resume e (.polling session) reply = _
  rw [resume, Web.Reply.decode_eq_ok_iff.mpr hholds, hurl]
  exact if_pos hrunning

end Spark

namespace Hive

/-- The run waits for the state of its job. -/
def Phase.IsPoll : Phase → Prop
  | polling _ _ => True
  | submitting _ | reading => False

/-- The run has submitted its job. -/
def Phase.IsSubmitted : Phase → Prop
  | polling _ _ | reading => True
  | submitting _ => False

/-- The reply says that the job is in no final state; the job is asked for again. -/
def Stalls (e : EngineSettings) (_ : Request) (phase : Phase) (reply : Reply) (poll : Request) :
    Prop :=
  ∃ directory job j, phase = .polling directory job ∧ reply.Holds Job.read? j ∧
    j.state ∉ ["SUCCEEDED", "FAILED", "KILLED"] ∧ poll = (jobRequest e job).after .poll

theorem releases_service (e : EngineSettings) : (service e).Releases Phase.IsSubmitted := by
  intro phase reply hphase
  cases phase with
  | submitting => cases hphase
  | reading => exact rfl
  | polling directory job =>
    show (resume e (.polling directory job) reply).Stays _
    rw [resume]
    cases reply.decode "WebHCat job status" "WebHCat job" Job.read? with
    | error f => rfl
    | ok j =>
      show (advance e directory job j).Stays _
      rw [advance]
      split
      · split
        · rfl
        · trivial
      · split
        · rfl
        · split
          · rfl
          · trivial

theorem stalls_service (e : EngineSettings) {request : Request} {phase : Phase} {reply : Reply}
    {poll : Request} (h : Stalls e request phase reply poll) :
    ∃ entry, (service e).resume phase reply = .ask entry poll phase := by
  obtain ⟨directory, job, j, rfl, hholds, hstate, rfl⟩ := h
  simp only [List.mem_cons, List.not_mem_nil, or_false, not_or] at hstate
  obtain ⟨hsucceeded, hfailed, hkilled⟩ := hstate
  refine ⟨.keep, ?_⟩
  show resume e (.polling directory job) reply = _
  rw [resume, Web.Reply.decode_eq_ok_iff.mpr hholds]
  show advance e directory job j = _
  rw [advance, if_neg hsucceeded, if_neg hfailed, if_neg hkilled]

end Hive

namespace Presto

/-- The run waits for a page after the first. -/
def Phase.IsPoll : Phase → Prop
  | following _ => True
  | submitting => False

/-- The reply is a page that leads on and holds nothing else; the page it leads to is asked for. -/
def Stalls (e : EngineSettings) (_ : Request) (phase : Phase) (reply : Reply) (poll : Request) :
    Prop :=
  ∃ soFar p url, phase = .following soFar ∧ reply.Holds Page.read? p ∧ p.next = some url ∧
    p.data.getD [] = [] ∧ p.columns = none ∧ p.error = none ∧
    poll = pageRequest e url p.data.isSome

theorem releases_service (e : EngineSettings) : (service e).Releases Phase.IsPoll := by
  intro phase reply hphase
  cases phase with
  | submitting => cases hphase
  | following soFar =>
    show (resume e (.following soFar) reply).Stays _
    rw [resume]
    cases reply.decode "Trino poll" "Trino statement" Page.read? with
    | error f => rfl
    | ok p =>
      show (advance e soFar p).Stays _
      rw [advance]
      split
      · rfl
      · dsimp only
        split
        · trivial
        · rfl

/-- A page that holds nothing adds nothing. -/
theorem addTo_of_empty {p : Page} (hdata : p.data.getD [] = []) (hcolumns : p.columns = none)
    (r : ResultSet) : p.addTo r = r := by
  obtain ⟨columns, rows⟩ := r
  rw [Page.addTo, hdata, hcolumns, List.map_nil, List.append_nil]
  cases columns <;> rfl

theorem stalls_service (e : EngineSettings) {request : Request} {phase : Phase} {reply : Reply}
    {poll : Request} (h : Stalls e request phase reply poll) :
    ∃ entry, (service e).resume phase reply = .ask entry poll phase := by
  obtain ⟨soFar, p, url, rfl, hholds, hnext, hdata, hcolumns, herror, rfl⟩ := h
  refine ⟨.hold url, ?_⟩
  show resume e (.following soFar) reply = _
  rw [resume, Web.Reply.decode_eq_ok_iff.mpr hholds]
  show advance e soFar p = _
  rw [advance, herror, addTo_of_empty hdata hcolumns, hnext]

end Presto

/-- Waiting does not change the answer, on any of the three services that poll: a Spark statement
that is still waiting, running or being cancelled, a Hive job in no final state, and a Presto page
that holds nothing but the way on are answered by one more poll each, and the run ends as it would
have ended without them. -/
theorem stalls_unseen (e : EngineSettings) :
    (Spark.service e).StallsUnseen Spark.Phase.IsPoll (Spark.Stalls e) ∧
      (Hive.service e).StallsUnseen Hive.Phase.IsPoll (Hive.Stalls e) ∧
      (Presto.service e).StallsUnseen Presto.Phase.IsPoll (Presto.Stalls e) := by
  refine ⟨?_, ?_, ?_⟩
  · exact Service.stallsUnseen_of_releases (Spark.releases_service e) (fun _ h => h)
      fun _ _ _ _ => Spark.stalls_service e
  · have hsubmitted : ∀ phase, Hive.Phase.IsPoll phase → Hive.Phase.IsSubmitted phase := by
      intro phase h
      cases phase <;> trivial
    exact Service.stallsUnseen_of_releases (Hive.releases_service e) hsubmitted
      fun _ _ _ _ => Hive.stalls_service e
  · exact Service.stallsUnseen_of_releases (Presto.releases_service e) (fun _ h => h)
      fun _ _ _ _ => Presto.stalls_service e

namespace Presto

/-- A first page with columns and a row, a page with nothing, and the last page with a row. -/
def firstPage : Reply := .answered 200 (.ok
  "\x7b\"id\":\"q\",\"nextUri\":\"b\",\"columns\":[\x7b\"name\":\"n\"\x7d],\"data\":[[\"x\"]]\x7d")

def idlePage : Reply := .answered 200 (.ok "\x7b\"id\":\"q\",\"nextUri\":\"c\"\x7d")

def lastPage : Reply := .answered 200 (.ok "\x7b\"id\":\"q\",\"data\":[[\"y\"]]\x7d")

set_option maxRecDepth 8192 in
theorem holds_pages :
    firstPage.Holds Page.read? ⟨"q", some "b", some ["n"], some [[.str "x"]], none⟩ ∧
      idlePage.Holds Page.read? ⟨"q", some "c", none, none, none⟩ ∧
      lastPage.Holds Page.read? ⟨"q", none, none, some [[.str "y"]], none⟩ := by
  refine ⟨Reply.holds_of_read ?_, Reply.holds_of_read ?_, Reply.holds_of_read ?_⟩ <;> cbv

end Presto

/-- An idle page between two pages costs the request for the page it leads to, and no more. -/
theorem stalls_unseen_idle :
    ((Presto.service .blank).execute 3 true "t" 60 "SELECT n FROM visits" []).play
      [Presto.firstPage, Presto.idlePage, Presto.lastPage] =
      ([Presto.submitRequest .blank "SELECT n FROM visits", Presto.pageRequest .blank "b" true,
        Presto.pageRequest .blank "c" false],
        some ([], .finished (.ok ⟨["n"], [[("n", .str "x")], [("n", .str "y")]]⟩))) := by
  obtain ⟨hfirst, hidle, hlast⟩ := Presto.holds_pages
  generalize Presto.firstPage = first at *
  generalize Presto.idlePage = idle at *
  generalize Presto.lastPage = last at *
  have hask : (Presto.service .blank).resume .submitting first =
      .ask (.hold "b") (Presto.pageRequest .blank "b" true)
        (.following ⟨["n"], [[("n", .str "x")]]⟩) := by
    show Presto.resume .blank .submitting first = _
    rw [Presto.resume, Reply.decode_eq_ok_iff.mpr hfirst]
    rfl
  have hfinish : (Presto.service .blank).resume (.following ⟨["n"], [[("n", .str "x")]]⟩)
      last = .finish .release (.ok ⟨["n"], [[("n", .str "x")], [("n", .str "y")]]⟩) := by
    show Presto.resume .blank (.following _) last = _
    rw [Presto.resume, Reply.decode_eq_ok_iff.mpr hlast]
    rfl
  have hplay : ((Presto.service .blank).execute 2 true "t" 60 "SELECT n FROM visits" []).play
      ([first] ++ [last]) =
        ([Presto.submitRequest .blank "SELECT n FROM visits", Presto.pageRequest .blank "b" true],
          some ([], .finished (.ok ⟨["n"], [[("n", .str "x")], [("n", .str "y")]]⟩))) := by
    rw [Service.play_execute_iff _ _ _ (Ending.finished_ne_timedOut _ _)]
    show ((Presto.service .blank).converse "t" 60 2 []
      (.waiting (Presto.submitRequest .blank "SELECT n FROM visits") .submitting)).play
        [first, last] = _
    rw [Service.play_ask 60 hask, Service.play_finish 60 hfinish rfl]
    rfl
  have hafter : (Presto.service .blank).after "t"
      ((Presto.service .blank).start true "t" "SELECT n FROM visits" []) [first] =
        ([("t", "b")], .waiting (Presto.pageRequest .blank "b" true)
          (.following ⟨["n"], [[("n", .str "x")]]⟩)) := by
    show (Presto.service .blank).receive "t" [] first
      (.waiting (Presto.submitRequest .blank "SELECT n FROM visits") .submitting) = _
    rw [Service.receive, hask]
    rfl
  have hstalls : Presto.Stalls .blank (Presto.pageRequest .blank "b" true)
      (.following ⟨["n"], [[("n", .str "x")]]⟩) idle
      (Presto.pageRequest .blank "c" false) :=
    ⟨_, _, "c", rfl, hidle, rfl, rfl, rfl, rfl, rfl⟩
  exact ((stalls_unseen .blank).2.2 true "t" 60 "SELECT n FROM visits" [] 2 [first] [last] _ _ _
    hplay (Ending.finished_ne_timedOut _ _) _ _ _ hafter trivial [idle] _
    (.cons hstalls .nil) 3 (Nat.le_refl 3)).1

end QueryDesk
