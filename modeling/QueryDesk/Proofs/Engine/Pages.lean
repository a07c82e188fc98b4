import QueryDesk.Engine.Presto.Service
import QueryDesk.Proofs.Engine.Runs

/-!
# Result pages, all or nothing

A Presto statement is answered by a chain of pages.  Its result is the rows of all of them, or a
failure with none (`execute_all_or_nothing`).  The run carries the columns and rows so far from page
to page; what they are after some pages is what those pages hold (`Conforming.addTo_collected`), for
the columns are known before the first row comes.  A fault ends the run where it occurs, and what
was collected is dropped.
-/

namespace QueryDesk

open Web (Request Reply)

/-! ## Rows -/

theorem Json.Members.put_of_not_mem {key : String} {ms : Members} (h : key ∉ ms.map Prod.fst)
    (value : Json) : put key value ms = ms ++ [(key, value)] := by
  induction ms with
  | nil => rfl
  | cons m rest ih =>
    obtain ⟨k, v⟩ := m
    rw [List.map_cons, List.mem_cons, not_or] at h
    rw [put, if_neg (Ne.symm h.1), ih h.2, List.cons_append]

theorem Json.Members.foldl_put (acc ms : Members) (h : ((acc ++ ms).map Prod.fst).Nodup) :
    ms.foldl (fun acc (k, v) => put k v acc) acc = acc ++ ms := by
  induction ms generalizing acc with
  | nil => exact (List.append_nil acc).symm
  | cons m rest ih =>
    obtain ⟨key, value⟩ := m
    have hkey : key ∉ acc.map Prod.fst := by
      rw [List.map_append, List.map_cons, List.nodup_append] at h
      exact fun hin => h.2.2 _ hin _ List.mem_cons_self rfl
    have hrest : (((acc ++ [(key, value)]) ++ rest).map Prod.fst).Nodup := by
      rwa [List.append_assoc, List.singleton_append]
    show rest.foldl (fun acc (k, v) => put k v acc) (put key value acc) = _
    rw [put_of_not_mem hkey, ih _ hrest, List.append_assoc, List.singleton_append]

/-- Under distinct columns, as many as there are values, each value has its own. -/
theorem Row.zip_eq {columns : List String} (h : columns.Nodup) {values : List Json}
    (hlength : values.length = columns.length) : Row.zip columns values = columns.zip values := by
  refine Json.Members.foldl_put [] (columns.zip values) ?_
  rwa [List.nil_append, List.map_fst_zip (Nat.le_of_eq hlength.symm)]

namespace Presto

/-! ## Chains -/

/-- A page of a chain, and what came back when it was asked for. -/
structure Delivery where
  page : Page
  reply : Reply

namespace Delivery

/-- The reply holds the page. -/
def Arrives (d : Delivery) : Prop := d.reply.Holds Page.read? d.page

/-- The request failed: nothing came back, or a refusal, or a body that is no page. -/
def Fails (d : Delivery) : Prop := ∀ p, ¬d.reply.Holds Page.read? p

/-- The page arrived and reports no error. -/
def Sound (d : Delivery) : Prop := d.Arrives ∧ d.page.error = none

end Delivery

/-- The values of the rows on a page. -/
def Page.values (p : Page) : List (List Json) := p.data.getD []

/-- What the protocol promises of the pages of a statement with these columns. -/
structure Conforming (columns : List String) (pages : List Page) : Prop where
  distinct : columns.Nodup
  /-- Columns that are named again are the same. -/
  same : ∀ p ∈ pages, ∀ names ∈ p.columns, names = columns
  /-- Columns are named no later than on the first page with a row. -/
  early : ∀ before p after, pages = before ++ p :: after → p.values ≠ [] →
    ∃ p' ∈ before ++ [p], p'.columns = some columns
  /-- A row has a value for each column. -/
  full : ∀ p ∈ pages, ∀ values ∈ p.values, values.length = columns.length

/-- What some pages hold: the columns once they are named, and all rows. -/
def collected (columns : List String) (pages : List Page) : ResultSet where
  columns := if ∃ p ∈ pages, p.columns = some columns then columns else []
  rows := (pages.flatMap Page.values).map (columns.zip ·)

/-- Columns are taken from the first page that names them; taken again, they are the same. -/
theorem columns_collected_concat {columns : List String} (before : List Page) {p : Page}
    (hsame : ∀ names ∈ p.columns, names = columns) :
    (collected columns (before ++ [p])).columns =
      if (collected columns before).columns.isEmpty then p.columns.getD []
      else (collected columns before).columns := by
  by_cases hbefore : ∃ p' ∈ before, p'.columns = some columns
  · have hall : ∃ p' ∈ before ++ [p], p'.columns = some columns := by
      obtain ⟨p', hp', hnamed⟩ := hbefore
      exact ⟨p', List.mem_append_left _ hp', hnamed⟩
    simp only [collected, if_pos hbefore, if_pos hall]
    split
    · next hempty =>
      rw [List.isEmpty_iff.mp hempty] at hsame ⊢
      cases hp : p.columns with
      | none => rfl
      | some names => exact (hsame names hp).symm
    · rfl
  · simp only [collected, if_neg hbefore, List.isEmpty_nil, if_true]
    cases hp : p.columns with
    | none =>
      refine if_neg ?_
      rintro ⟨p', hp', hnamed⟩
      rcases List.mem_append.mp hp' with hin | hlast
      · exact hbefore ⟨p', hin, hnamed⟩
      · rw [List.mem_singleton.mp hlast, hp] at hnamed
        cases hnamed
    | some names =>
      obtain rfl := hsame names hp
      exact if_pos ⟨p, List.mem_append_right _ List.mem_cons_self, hp⟩

theorem Conforming.addTo_collected {columns : List String} {pages before after : List Page}
    {p : Page} (h : Conforming columns pages) (hpages : pages = before ++ p :: after) :
    p.addTo (collected columns before) = collected columns (before ++ [p]) := by
  have hp : p ∈ pages := hpages ▸ List.mem_append_right _ List.mem_cons_self
  have hcolumns := columns_collected_concat before (h.same p hp)
  have hrows : p.values.map (Row.zip (collected columns (before ++ [p])).columns) =
      p.values.map (columns.zip ·) := by
    by_cases hnone : p.values = []
    · rw [hnone, List.map_nil, List.map_nil]
    · have hnamed : (collected columns (before ++ [p])).columns = columns :=
        if_pos (h.early before p after hpages hnone)
      rw [hnamed]
      exact List.map_congr_left fun values hvalues =>
        Row.zip_eq h.distinct (h.full p hp values hvalues)
  have hall : (collected columns (before ++ [p])).rows =
      (collected columns before).rows ++ p.values.map (columns.zip ·) := by
    simp only [collected, List.flatMap_append, List.map_append, List.flatMap_singleton]
  rw [Page.addTo, ← hcolumns]
  show ResultSet.mk _ ((collected columns before).rows ++ p.values.map (Row.zip _)) = _
  rw [hrows, ← hall]

/-- Adding the pages one by one leads to what they hold together. -/
theorem Conforming.foldl_addTo {columns : List String} {pages : List Page}
    (h : Conforming columns pages) : pages.foldl (fun r p => p.addTo r) ⟨[], []⟩ =
      collected columns pages := by
  have hfrom : ∀ before after, pages = before ++ after →
      after.foldl (fun r p => p.addTo r) (collected columns before) =
        collected columns (before ++ after) := by
    intro before after hpages
    induction after generalizing before with
    | nil => rw [List.append_nil]; rfl
    | cons p after ih =>
      have hrest : pages = (before ++ [p]) ++ after := by
        rw [hpages, List.append_assoc, List.singleton_append]
      rw [List.foldl_cons, h.addTo_collected hpages, ih _ hrest, List.append_assoc,
        List.singleton_append]
  exact hfrom [] pages rfl

/-! ## The run over a chain -/

/-- The result that a run holds while it waits. -/
def Phase.soFar : Phase → ResultSet
  | submitting => ⟨[], []⟩
  | following r => r

theorem resume_of_arrives (e : EngineSettings) (phase : Phase) {d : Delivery} (h : d.Arrives) :
    resume e phase d.reply = advance e phase.soFar d.page := by
  cases phase <;> rw [resume, Web.Reply.decode_eq_ok_iff.mpr h] <;> rfl

/-- A page with an error, or a failed request, ends the run with a fault. -/
theorem exists_fault (e : EngineSettings) (phase : Phase) {d : Delivery}
    (hdelivery : d.Arrives ∨ d.Fails) (hsound : ¬d.Sound) :
    ∃ entry fault, resume e phase d.reply = .finish entry (.error fault) ∧
      (entry = .release ∨ phase = .submitting ∧ entry = .keep) := by
  rcases hdelivery with harrives | hfails
  · rw [resume_of_arrives e phase harrives, advance]
    cases herror : d.page.error with
    | none => exact absurd ⟨harrives, herror⟩ hsound
    | some error => exact ⟨.release, error.fault, rfl, .inl rfl⟩
  · have hdecode : ∀ what, ∃ fault,
        d.reply.decode what "Trino statement" Page.read? = .error fault := by
      intro what
      cases hd : d.reply.decode what "Trino statement" Page.read? with
      | ok p => exact absurd (Web.Reply.decode_eq_ok_iff.mp hd) (hfails p)
      | error fault => exact ⟨fault, rfl⟩
    cases phase with
    | submitting =>
      obtain ⟨fault, hfault⟩ := hdecode "Trino submit"
      rw [resume, hfault]
      exact ⟨.keep, fault, rfl, .inr ⟨rfl, rfl⟩⟩
    | following r =>
      obtain ⟨fault, hfault⟩ := hdecode "Trino poll"
      rw [resume, hfault]
      exact ⟨.release, fault, rfl, .inl rfl⟩

theorem get?_after_finish {task : String} {jobs : Jobs String} {phase : Phase}
    {entry : Entry String} (hfresh : phase = .submitting → jobs.get? task = none)
    (hentry : entry = .release ∨ phase = .submitting ∧ entry = .keep) :
    (entry.apply task jobs).get? task = none := by
  rcases hentry with rfl | ⟨hphase, rfl⟩
  · rw [Entry.apply, Jobs.get?_erase, if_pos rfl]
  · exact hfresh hphase

/-- The requests for the pages that some pages lead to. -/
def pageRequests (e : EngineSettings) (before : List Delivery) (urls : List String) :
    List Request :=
  List.zipWith (fun d url => pageRequest e url d.page.data.isSome) before urls

/-- Over pages that arrive, report no error and lead on, a run collects what they hold and asks for
each next one; it ends with the reply that ends it. -/
theorem play_chain (e : EngineSettings) (task : String) (seconds patience : Nat)
    {before : List Delivery} {urls : List String} (hsound : ∀ d ∈ before, d.Sound)
    (hlinks : before.map (·.page.next) = urls.map some) (jobs : Jobs String) (phase : Phase)
    (hfresh : phase = .submitting → jobs.get? task = none) (request : Request) :
    ∃ jobs' phase',
      phase'.soFar = (before.map Delivery.page).foldl (fun r p => p.addTo r) phase.soFar ∧
      (phase' = .submitting → jobs'.get? task = none) ∧
      ∀ last entry result rest, resume e phase' last = .finish entry result →
        (entry.apply task jobs').get? task = none →
        ((service e).converse task seconds (before.length + patience + 1) jobs
          (.waiting request phase)).play (before.map Delivery.reply ++ last :: rest) =
            (request :: pageRequests e before urls,
              some ((entry.apply task jobs').erase task, some (.finished result))) := by
  induction before generalizing urls jobs phase request with
  | nil =>
    refine ⟨jobs, phase, rfl, hfresh, fun last entry result rest hlast hnone => ?_⟩
    exact Service.play_finish seconds hlast hnone _ request rest
  | cons d before ih =>
    obtain ⟨harrives, herror⟩ := hsound d List.mem_cons_self
    cases urls with
    | nil => cases hlinks
    | cons url urls =>
      rw [List.map_cons, List.map_cons, List.cons.injEq] at hlinks
      obtain ⟨hnext, hlinks⟩ := hlinks
      have hresume : (service e).resume phase d.reply = .ask (.hold url)
          (pageRequest e url d.page.data.isSome) (.following (d.page.addTo phase.soFar)) := by
        show resume e phase d.reply = _
        rw [resume_of_arrives e phase harrives, advance, herror, hnext]
      obtain ⟨jobs', phase', hsoFar, hfresh', hplay⟩ := ih
        (fun x hx => hsound x (List.mem_cons_of_mem _ hx)) hlinks (jobs.insert task url)
        (.following (d.page.addTo phase.soFar)) nofun (pageRequest e url d.page.data.isSome)
      refine ⟨jobs', phase', hsoFar, hfresh', fun last entry result rest hlast hnone => ?_⟩
      have hlength : (d :: before).length + patience + 1 = (before.length + patience + 1) + 1 := by
        rw [List.length_cons]
        omega
      rw [hlength, List.map_cons, List.cons_append, Service.play_ask seconds hresume]
      show (request :: (((service e).converse _ _ _ (jobs.insert task url) _).play _).1, _) = _
      rw [Entry.apply, hplay last entry result rest hlast hnone]
      rfl

/-! ## All or nothing -/

theorem links_before {before after : List Delivery} {d : Delivery} {urls : List String}
    (hlinks : (before ++ d :: after).map (·.page.next) = urls.map some ++ [none]) :
    before.map (·.page.next) = (urls.take before.length).map some := by
  have hlength : before.length ≤ (urls.map some).length := by
    have h := congrArg List.length hlinks
    simp only [List.length_map, List.length_append, List.length_cons, List.length_nil] at h ⊢
    omega
  have h := congrArg (List.take before.length) hlinks
  rwa [List.map_append, List.take_left' (List.length_map _), List.take_append_of_le_length hlength,
    ← List.map_take] at h

theorem exists_first_unsound {chain : List Delivery} (h : ∃ d ∈ chain, ¬d.Sound) :
    ∃ before bad after, chain = before ++ bad :: after ∧ (∀ d ∈ before, d.Sound) ∧ ¬bad.Sound := by
  induction chain with
  | nil =>
    obtain ⟨d, hd, -⟩ := h
    cases hd
  | cons d chain ih =>
    by_cases hd : d.Sound
    · have hrest : ∃ x ∈ chain, ¬x.Sound := by
        obtain ⟨x, hx, hbad⟩ := h
        rcases List.mem_cons.mp hx with rfl | hlater
        · exact absurd hd hbad
        · exact ⟨x, hlater, hbad⟩
      obtain ⟨before, bad, after, rfl, hbefore, hbad⟩ := ih hrest
      exact ⟨d :: before, bad, after, rfl, List.forall_mem_cons.mpr ⟨hd, hbefore⟩, hbad⟩
    · exact ⟨[], d, chain, rfl, nofun, hd⟩

/-- What a request does, and where. -/
def target (r : Request) : Web.Method × String := (r.method, r.url)

theorem targets_pageRequests (e : EngineSettings) {before : List Delivery} {urls : List String}
    (hlength : urls.length = before.length) :
    (pageRequests e before urls).map target = urls.map fun url => (.get, url) := by
  induction before generalizing urls with
  | nil => rw [List.length_eq_zero_iff.mp hlength]; rfl
  | cons d before ih =>
    cases urls with
    | nil => cases hlength
    | cons url urls =>
      have hrest := ih (Nat.succ.inj hlength)
      simp only [pageRequests, List.zipWith_cons_cons, List.map_cons, List.cons.injEq]
      exact ⟨rfl, hrest⟩

theorem Conforming.values_collected {columns : List String} {pages : List Page}
    (h : Conforming columns pages) :
    (collected columns pages).rows.map (·.map Prod.snd) = pages.flatMap Page.values ∧
      ∀ row ∈ (collected columns pages).rows, Json.Members.keys row = columns := by
  have hfull : ∀ values ∈ pages.flatMap Page.values, values.length = columns.length := by
    intro values hvalues
    obtain ⟨p, hp, hin⟩ := List.mem_flatMap.mp hvalues
    exact h.full p hp values hin
  constructor
  · rw [collected, List.map_map]
    refine (List.map_congr_left fun values hvalues => ?_).trans (List.map_id _)
    exact List.map_snd_zip (Nat.le_of_eq (hfull values hvalues))
  · intro row hrow
    obtain ⟨values, hvalues, rfl⟩ := List.mem_map.mp hrow
    exact List.map_fst_zip (Nat.le_of_eq (hfull values hvalues).symm)

/-- A run over a chain up to the page at which it ends. -/
theorem play_execute_chain (e : EngineSettings) {before after : List Delivery} {d : Delivery}
    {urls : List String} (hsound : ∀ x ∈ before, x.Sound)
    (hlinks : (before ++ d :: after).map (·.page.next) = urls.map some ++ [none])
    {patience : Nat} (hpatience : before.length < patience) {task : String}
    {jobs : Jobs String} (hfresh : jobs.get? task = none) (seconds : Nat) (sql : String)
    (rest : List Reply) :
    ∃ phase',
      phase'.soFar = (before.map Delivery.page).foldl (fun r p => p.addTo r) ⟨[], []⟩ ∧
      ∀ entry result, resume e phase' d.reply = .finish entry result →
        (entry = .release ∨ phase' = .submitting ∧ entry = .keep) →
        ∃ jobs'', jobs''.get? task = none ∧
          ((service e).execute patience true task seconds sql jobs).play
            ((before ++ d :: after).map Delivery.reply ++ rest) =
              (submitRequest e sql :: pageRequests e before (urls.take before.length),
                some (jobs'', .finished result)) := by
  obtain ⟨spare, rfl⟩ : ∃ spare, patience = before.length + spare + 1 :=
    Nat.exists_eq_add_of_lt hpatience
  obtain ⟨jobs', phase', hsoFar, hfresh', hplay⟩ := play_chain e task seconds spare hsound
    (links_before hlinks) jobs .submitting (fun _ => hfresh) (submitRequest e sql)
  refine ⟨phase', hsoFar, fun entry result hresume hentry => ?_⟩
  have hnone := get?_after_finish hfresh' hentry
  refine ⟨(entry.apply task jobs').erase task, by rw [Jobs.get?_erase, if_pos rfl], ?_⟩
  have hconverse := hplay d.reply entry result (after.map Delivery.reply ++ rest) hresume hnone
  have hstart : (service e).start true task sql jobs =
      (jobs, .waiting (submitRequest e sql) .submitting) := rfl
  rw [Service.play_execute_iff _ _ _ (Ending.finished_ne_timedOut _ _), hstart, List.map_append,
    List.map_cons, List.append_assoc, List.cons_append, hconverse]

/-- The timeout is not reached: there is patience for each page that is asked for, that is, each
that has nothing but sound pages before it. -/
def Patient (patience : Nat) (chain : List Delivery) : Prop :=
  ∀ before d after, chain = before ++ d :: after → (∀ x ∈ before, x.Sound) →
    before.length < patience

theorem patient_of_length_le {patience : Nat} {chain : List Delivery}
    (h : chain.length ≤ patience) : Patient patience chain := by
  rintro before d after rfl -
  rw [List.length_append, List.length_cons] at h
  omega

/-- All or nothing.  A connected service runs a statement for a task that has no job yet.  It is
answered by a finite chain of pages, each page but the last leading to the next, and the columns and
rows on them conforming to the protocol; each request brings its page or fails, and the timeout is
not reached.  If all pages arrive and report no error, one POST is followed by a GET for each link
in order, and the outcome is a success whose rows hold the values of the rows of all pages in order,
each under its column.  Otherwise the outcome is a failure without rows, and the first fault was the
last thing asked for.  In both cases the task has no job left. -/
theorem execute_all_or_nothing (e : EngineSettings) {columns : List String}
    {chain : List Delivery} {urls : List String}
    (hlinks : chain.map (·.page.next) = urls.map some ++ [none])
    (hconforms : Conforming columns (chain.map Delivery.page))
    (hdelivered : ∀ d ∈ chain, d.Arrives ∨ d.Fails) {patience : Nat}
    (hpatience : Patient patience chain) {task : String} {jobs : Jobs String}
    (hfresh : jobs.get? task = none) (seconds : Nat) (sql : String) (elapsed : Float)
    (rest : List Reply) :
    ∃ requests jobs' ending,
      ((service e).execute patience true task seconds sql jobs).play
        (chain.map Delivery.reply ++ rest) = (requests, some (jobs', ending)) ∧
      jobs'.get? task = none ∧
      ((∀ d ∈ chain, d.Sound) →
        requests.map target =
          (.post, root e ++ "/v1/statement") :: urls.map (fun url => (.get, url)) ∧
        (ending.outcome task elapsed).success = true ∧
        (ending.outcome task elapsed).rows.map (·.map Prod.snd) =
          chain.flatMap (·.page.values) ∧
        ∀ row ∈ (ending.outcome task elapsed).rows, Json.Members.keys row = columns) ∧
      ((∃ d ∈ chain, ¬d.Sound) →
        ∃ before bad after, chain = before ++ bad :: after ∧ (∀ d ∈ before, d.Sound) ∧ ¬bad.Sound ∧
          requests.map target = (.post, root e ++ "/v1/statement") ::
            (urls.take before.length).map (fun url => (.get, url)) ∧
          (ending.outcome task elapsed).success = false ∧
          (ending.outcome task elapsed).error.isSome = true ∧
          (ending.outcome task elapsed).rows = []) := by
  by_cases hall : ∀ d ∈ chain, d.Sound
  · obtain ⟨before, last, rfl⟩ : ∃ before last, chain = before ++ [last] := by
      rcases List.eq_nil_or_concat chain with rfl | ⟨before, last, hchain⟩
      · exact absurd (congrArg List.length hlinks) (by simp)
      · exact ⟨before, last, by rw [hchain, List.concat_eq_append]⟩
    have hlength : urls.length = before.length := by
      have h := congrArg List.length hlinks
      simpa using h.symm
    have hnext : last.page.next = none := by
      have h := congrArg List.getLast? hlinks
      simpa using h
    have hbefore : ∀ d ∈ before, d.Sound := fun d hd => hall d (List.mem_append_left _ hd)
    obtain ⟨phase', hsoFar, hplay⟩ := play_execute_chain e hbefore hlinks
      (hpatience before last [] rfl hbefore) hfresh seconds sql rest
    obtain ⟨harrives, herror⟩ := hall last (List.mem_append_right _ List.mem_cons_self)
    have hresume : resume e phase' last.reply =
        .finish .release (.ok (collected columns ((before ++ [last]).map Delivery.page))) := by
      rw [resume_of_arrives e phase' harrives, advance, herror, hnext, hsoFar,
        ← hconforms.foldl_addTo, List.map_append, List.foldl_append]
      rfl
    obtain ⟨jobs', hnone, hplayed⟩ := hplay _ _ hresume (.inl rfl)
    obtain ⟨hvalues, hkeys⟩ := hconforms.values_collected
    refine ⟨_, jobs', _, hplayed, hnone, fun _ => ⟨?_, rfl, ?_, hkeys⟩, fun h => ?_⟩
    · rw [List.map_cons, List.take_of_length_le (Nat.le_of_eq hlength),
        targets_pageRequests e hlength]
      rfl
    · rw [List.flatMap_map] at hvalues
      exact hvalues
    · obtain ⟨d, hd, hbad⟩ := h
      exact absurd (hall d hd) hbad
  · have hsome : ∃ d ∈ chain, ¬d.Sound := by
      simpa only [not_forall, exists_prop] using hall
    obtain ⟨before, bad, after, rfl, hbefore, hbad⟩ := exists_first_unsound hsome
    have hlength : (urls.take before.length).length = before.length := by
      have h := congrArg List.length (links_before hlinks)
      simpa using h.symm
    obtain ⟨phase', -, hplay⟩ := play_execute_chain e hbefore hlinks
      (hpatience before bad after rfl hbefore) hfresh seconds sql rest
    obtain ⟨entry, fault, hfault, hentry⟩ := exists_fault e phase'
      (hdelivered bad (List.mem_append_right _ List.mem_cons_self)) hbad
    obtain ⟨jobs', hnone, hplayed⟩ := hplay entry (.error fault) hfault hentry
    refine ⟨_, jobs', _, hplayed, hnone, fun h => absurd h hall, fun _ => ?_⟩
    refine ⟨before, bad, after, rfl, hbefore, hbad, ?_, rfl, rfl, rfl⟩
    rw [List.map_cons, targets_pageRequests e hlength]
    rfl

/-- A page in the queue, with a number out of range that nothing looks at, one with columns and a
row, and the last with the columns again. -/
def visitsChain : List Delivery := [
  ⟨⟨"q", some "b", none, none, none⟩, .answered 200 (.ok
    "\x7b\"id\":\"q\",\"nextUri\":\"b\",\"stats\":\x7b\"elapsed\":1e400\x7d\x7d")⟩,
  ⟨⟨"q", some "c", some ["n"], some [[.str "x"]], none⟩, .answered 200 (.ok <|
    "\x7b\"id\":\"q\",\"nextUri\":\"c\",\"columns\":[\x7b\"name\":\"n\"\x7d]," ++
      "\"data\":[[\"x\"]]\x7d")⟩,
  ⟨⟨"q", none, some ["n"], some [[.null], [.str "y"]], none⟩, .answered 200 (.ok
    "\x7b\"id\":\"q\",\"columns\":[\x7b\"name\":\"n\"\x7d],\"data\":[[null],[\"y\"]]\x7d")⟩]

set_option maxRecDepth 8192 in
theorem arrives_visitsChain : ∀ d ∈ visitsChain, d.Arrives := by
  simp only [visitsChain, List.forall_mem_cons, Delivery.Arrives]
  refine ⟨Web.Reply.holds_of_read ?_, Web.Reply.holds_of_read ?_, Web.Reply.holds_of_read ?_,
    nofun⟩ <;> cbv

theorem conforming_visitsChain : Conforming ["n"] (visitsChain.map Delivery.page) where
  distinct := by decide
  same := by simp [visitsChain]
  early := by
    rintro (_ | ⟨first, _ | ⟨second, before⟩⟩) p after hpages hvalues
    · obtain ⟨rfl, -⟩ := List.cons.inj hpages
      exact absurd rfl hvalues
    · obtain ⟨-, hpages⟩ := List.cons.inj hpages
      obtain ⟨rfl, -⟩ := List.cons.inj hpages
      exact ⟨_, List.mem_append_right _ List.mem_cons_self, rfl⟩
    · obtain ⟨-, hpages⟩ := List.cons.inj hpages
      obtain ⟨rfl, -⟩ := List.cons.inj hpages
      exact ⟨_, List.mem_append_left _ (List.mem_cons_of_mem _ List.mem_cons_self), rfl⟩
  full := by simp [visitsChain, Page.values]

/-- The three pages make one success, and three rows. -/
theorem execute_all_or_nothing_visits :
    ∃ requests jobs' ending,
      ((service (.defaultFor .presto)).execute 3 true "t" 60 "SELECT n FROM visits" []).play
        (visitsChain.map Delivery.reply) = (requests, some (jobs', ending)) ∧
      requests.map target = [(.post, root (.defaultFor .presto) ++ "/v1/statement"), (.get, "b"),
        (.get, "c")] ∧
      (ending.outcome "t" 0.5).rows.map (·.map Prod.snd) = [[.str "x"], [.null], [.str "y"]] := by
  have hlinks : visitsChain.map (·.page.next) = ["b", "c"].map some ++ [none] := rfl
  have hfresh : Jobs.get? "t" ([] : Jobs String) = none := rfl
  have herror : ∀ d ∈ visitsChain, d.page.error = none := by simp [visitsChain]
  have hsound : ∀ d ∈ visitsChain, d.Sound := fun d hd => ⟨arrives_visitsChain d hd, herror d hd⟩
  obtain ⟨requests, jobs', ending, hplay, -, hsuccess, -⟩ :=
    execute_all_or_nothing (.defaultFor .presto) hlinks conforming_visitsChain
      (fun d hd => .inl (arrives_visitsChain d hd)) (patient_of_length_le (Nat.le_refl 3)) hfresh
      60 "SELECT n FROM visits" 0.5 []
  obtain ⟨hrequests, -, hrows, -⟩ := hsuccess hsound
  exact ⟨requests, jobs', ending, hplay, hrequests, hrows⟩

end Presto

end QueryDesk
