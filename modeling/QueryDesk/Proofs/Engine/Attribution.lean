import Mathlib.Data.List.Induction
import QueryDesk.Engine.Hive.Service
import QueryDesk.Engine.Spark.Statement
import QueryDesk.Proofs.Engine.Output

/-!
# Values under their columns

The engines send rows as values by position, and the columns apart from them.  In a result every
value is to stand under the column that the server declared at its position (`Sheet.Attributed`).
So it is on Presto and Hive.  On Spark a field of the schema without a name is passed over, and the
values move to the names after it (`Sheet.Moved`, `misplaced_after_nameless`); they stay in place if
no nameless field comes before one with a name (`results_attributed`).

All three engines put values under names by `Row.zip`, so the theory is about that function
(`Row.moved_zip`, `Row.attributed_zip`).  What remains is where each engine has the names from.  On
Presto they come with some page of many, and rows may come before them: such rows are left without
values, and once there are names they stay (`attributed_resultOf`).
-/

namespace QueryDesk

open Web (Request Reply)

/-! ## Rows -/

theorem Json.Members.mem_of_get?_ofList {key : String} {value : Json} {ms : Members}
    (h : get? key (ofList ms) = some value) : (key, value) ∈ ms := by
  induction ms using List.reverseRecOn with
  | nil => cases h
  | append_singleton ms m ih =>
    have hput : ofList (ms ++ [m]) = put m.1 m.2 (ofList ms) := List.foldl_concat ..
    rw [hput, get?_put] at h
    split at h
    · next hkey =>
      cases h
      rw [← hkey]
      exact List.mem_append_right _ List.mem_cons_self
    · exact List.mem_append_left _ (ih h)

namespace Row

/-- Every value of the row was sent at the place of a column with its name. -/
def Attributed (columns : List (Option String)) (values : List Json) (row : Row) : Prop :=
  ∀ column value, Json.Members.get? column row = some value →
    ∃ j : Nat, columns[j]? = some (some column) ∧ values[j]? = some value

/-- Every value of the row was sent at the place that a column with its name has when the columns
without a name are left out. -/
def Moved (columns : List (Option String)) (values : List Json) (row : Row) : Prop :=
  ∀ column value, Json.Members.get? column row = some value →
    ∃ j : Nat, columns[j]? = some (some column) ∧
      values[(columns.take j).countP Option.isSome]? = some value

theorem exists_place {columns : List String} {values : List Json} {column : String} {value : Json}
    (h : Json.Members.get? column (Row.zip columns values) = some value) :
    ∃ k : Nat, columns[k]? = some column ∧ values[k]? = some value := by
  obtain ⟨k, hk⟩ := List.mem_iff_getElem?.mp (Json.Members.mem_of_get?_ofList h)
  exact ⟨k, List.getElem?_zip_eq_some.mp hk⟩

theorem attributed_zip (columns : List String) (values : List Json) :
    Attributed (columns.map some) values (Row.zip columns values) := by
  intro column value h
  obtain ⟨k, hcolumn, hvalue⟩ := exists_place h
  exact ⟨k, by rw [List.getElem?_map, hcolumn, Option.map_some], hvalue⟩

/-- A named column among those with a name, and where it is among all. -/
theorem exists_getElem?_of_reduceOption {columns : List (Option String)} {k : Nat}
    {column : String} (h : columns.reduceOption[k]? = some column) :
    ∃ j : Nat, columns[j]? = some (some column) ∧
      (columns.take j).countP Option.isSome = k := by
  induction columns generalizing k with
  | nil => cases h
  | cons first columns ih =>
    cases first with
    | none =>
      obtain ⟨j, hcolumn, hcount⟩ := ih h
      refine ⟨j + 1, hcolumn, ?_⟩
      rw [List.take_succ_cons, List.countP_cons_of_neg Bool.false_ne_true, hcount]
    | some name =>
      cases k with
      | zero => exact ⟨0, congrArg some h, rfl⟩
      | succ k =>
        obtain ⟨j, hcolumn, hcount⟩ := ih h
        exact ⟨j + 1, hcolumn, by rw [List.take_succ_cons, List.countP_cons_of_pos rfl, hcount]⟩

theorem moved_zip (columns : List (Option String)) (values : List Json) :
    Moved columns values (Row.zip columns.reduceOption values) := by
  intro column value h
  obtain ⟨k, hcolumn, hvalue⟩ := exists_place h
  obtain ⟨j, hplace, hcount⟩ := exists_getElem?_of_reduceOption hcolumn
  exact ⟨j, hplace, by rw [hcount, hvalue]⟩

/-- No column without a name comes before one with a name. -/
def NamesFirst (columns : List (Option String)) : Prop :=
  ∀ j column, columns[j]? = some (some column) → ∀ c ∈ columns.take j, c.isSome = true

theorem Moved.attributed {columns : List (Option String)} {values : List Json} {row : Row}
    (h : Moved columns values row) (hnamed : NamesFirst columns) :
    Attributed columns values row := by
  intro column value hget
  obtain ⟨j, hcolumn, hvalue⟩ := h column value hget
  refine ⟨j, hcolumn, ?_⟩
  have hlength : j < columns.length := (List.getElem?_eq_some_iff.mp hcolumn).1
  rwa [List.countP_eq_length.mpr (hnamed j column hcolumn), List.length_take,
    Nat.min_eq_left (Nat.le_of_lt hlength)] at hvalue

end Row

/-! ## Sheets -/

/-- What a server sent of a result: the columns, some of them perhaps without a name, and the rows
as values by position. -/
structure Sheet where
  columns : List (Option String)
  rows : List (List Json)

namespace Sheet

/-- The result has a row for each row sent, with every value under the column of its position. -/
def Attributed (d : Sheet) (r : ResultSet) : Prop :=
  List.Forall₂ (Row.Attributed d.columns) d.rows r.rows

/-- The result has a row for each row sent, with the values under the columns that have a name. -/
def Moved (d : Sheet) (r : ResultSet) : Prop :=
  List.Forall₂ (Row.Moved d.columns) d.rows r.rows

theorem Moved.attributed {d : Sheet} {r : ResultSet} (h : d.Moved r)
    (hnamed : Row.NamesFirst d.columns) : d.Attributed r :=
  List.Forall₂.imp (fun _ _ hrow => hrow.attributed hnamed) h

end Sheet

/-! ## Spark -/

namespace Spark

/-- The result that a finished statement holds. -/
def Statement.payload? (t : Statement) : Option Json :=
  (t.output.bind Output.data).bind (·.get? "application/json")

/-- The fields of the schema, named or not, and the rows. -/
def sheet (payload : Json) : Sheet where
  columns := ((((payload.get? "schema").bind (·.get? "fields")).bind Json.asArray?).getD []).map
    fun field => (field.get? "name").bind Json.asString?
  rows := (((payload.get? "data").bind Json.asArray?).getD []).map fun row => row.asArray?.getD []

theorem schemaColumns_eq (payload : Json) :
    schemaColumns payload = (sheet payload).columns.reduceOption := by
  rw [schemaColumns, sheet]
  dsimp only
  cases ((payload.get? "schema").bind (·.get? "fields")).bind Json.asArray? with
  | none => rfl
  | some fields =>
    show _ = List.filterMap id (fields.map _)
    rw [List.filterMap_map]
    rfl

theorem payloadRows_eq (columns : List String) (payload : Json) :
    payloadRows columns payload = (sheet payload).rows.map (Row.zip columns) := by
  rw [payloadRows, sheet]
  dsimp only
  cases (payload.get? "data").bind Json.asArray? with
  | none => rfl
  | some rows =>
    rw [Option.getD_some, List.map_map]
    rfl

theorem moved_resultOfPayload (payload : Json) :
    (sheet payload).Moved (resultOfPayload payload) := by
  rw [Sheet.Moved, resultOfPayload, payloadRows_eq, List.forall₂_map_right_iff, List.forall₂_same,
    schemaColumns_eq]
  exact fun values _ => Row.moved_zip _ values

theorem resultOf_eq_ok {t : Statement} {r : ResultSet} (h : resultOf t = .ok r) :
    ∃ payload, t.payload? = some payload ∧ r = resultOfPayload payload := by
  rw [resultOf] at h
  split at h
  · cases h
  · cases houtput : t.output with
    | none =>
      rw [houtput] at h
      cases h
    | some o =>
      rw [houtput] at h
      dsimp only at h
      rw [resultOfOutput] at h
      split at h
      · cases h
      · split at h
        · next payload hpayload =>
          cases h
          exact ⟨payload, by rw [Statement.payload?, houtput, Option.bind_some, hpayload], rfl⟩
        · cases h

theorem resultOf_of_advance {e : EngineSettings} {session : UInt64} {entry entry' : Entry Handle}
    {t : Statement} {r : ResultSet} (h : advance e session entry t = .finish entry' (.ok r)) :
    resultOf t = .ok r := by
  rw [advance] at h
  split at h
  · cases h
  · exact (Move.finish.inj h).2

theorem resultOf_of_finish {e : EngineSettings} {phase : Phase} {reply : Reply}
    {entry : Entry Handle} {r : ResultSet} (h : resume e phase reply = .finish entry (.ok r)) :
    ∃ t, reply.Holds Statement.read? t ∧ resultOf t = .ok r := by
  cases phase with
  | submitting session =>
    rw [resume] at h
    split at h
    · next t hread => exact ⟨t, Web.Reply.decode_eq_ok_iff.mp hread, resultOf_of_advance h⟩
    · cases h
  | polling session =>
    rw [resume] at h
    split at h
    · next t hread => exact ⟨t, Web.Reply.decode_eq_ok_iff.mp hread, resultOf_of_advance h⟩
    · cases h

/-- A statement that is over when it is first reported gives its result. -/
theorem yields_of_holds (e : EngineSettings) {reply : Reply} {t : Statement} {r : ResultSet}
    (hholds : reply.Holds Statement.read? t) (hended : isRunning t.state = false)
    (hresult : resultOf t = .ok r) : (service e).Yields [reply] r := by
  have hresume : (service e).resume (.submitting 0) reply = .finish .release (.ok r) := by
    show resume e (.submitting 0) reply = _
    rw [resume, Web.Reply.decode_eq_ok_iff.mpr hholds]
    dsimp only
    rw [advance, hended, if_neg Bool.false_ne_true, hresult]
  have hnone : (Entry.release.apply "" ([] : Jobs Handle)).get? "" = none := rfl
  have hplay := Service.play_finish 60 hresume hnone 0 (submitRequest e 0 "") []
  exact ⟨1, some 0, "", 60, "", [], _, _,
    ((service e).play_execute_iff "" 60 (Ending.finished_ne_timedOut _ _)).mpr hplay⟩

/-- One of the replies holds a statement with this result. -/
def Sent (replies : List Reply) (payload : Json) : Prop :=
  ∃ reply ∈ replies, ∃ t, reply.Holds Statement.read? t ∧ t.payload? = some payload

theorem asksFirst_service (e : EngineSettings) : (service e).AsksFirst := by
  intro held task sql entry result
  cases held <;> nofun

theorem yields_moved {e : EngineSettings} {replies : List Reply} {r : ResultSet}
    (h : (service e).Yields replies r) :
    ∃ payload, Sent replies payload ∧ r = resultOfPayload payload ∧ (sheet payload).Moved r := by
  obtain ⟨-, -, -, -, before, last, rest, -, -, phase, entry, rfl, -, hlast⟩ :=
    h.exists_finish (asksFirst_service e)
  obtain ⟨t, hholds, hresult⟩ := resultOf_of_finish hlast
  obtain ⟨payload, hpayload, rfl⟩ := resultOf_eq_ok hresult
  exact ⟨payload, ⟨last, by simp, t, hholds, hpayload⟩, rfl, moved_resultOfPayload payload⟩

end Spark

/-! ## Presto -/

namespace Presto

/-- The columns that are named first. -/
def declared (pages : List Page) : List String :=
  ((pages.filterMap Page.columns).find? fun names => !names.isEmpty).getD []

def sheet (pages : List Page) : Sheet where
  columns := (declared pages).map some
  rows := pages.flatMap Page.values

/-- The result of some pages, in whatever way they were sent. -/
def resultOf (pages : List Page) : ResultSet :=
  pages.foldl (fun r p => p.addTo r) ⟨[], []⟩

theorem declared_concat (pages : List Page) (p : Page) :
    declared (pages ++ [p]) =
      if (declared pages).isEmpty then p.columns.getD [] else declared pages := by
  rw [declared, List.filterMap_append, List.find?_append, declared]
  cases hfirst : (pages.filterMap Page.columns).find? fun names => !names.isEmpty with
  | some names =>
    have hsome := List.find?_some hfirst
    rw [Option.some_or, Option.getD_some, if_neg (by simpa using hsome)]
  | none =>
    rw [Option.none_or, Option.getD_none, List.isEmpty_nil, if_pos rfl]
    cases hp : p.columns with
    | none => simp [hp]
    | some names => cases names <;> simp [hp]

theorem resultOf_concat (pages : List Page) (p : Page) :
    resultOf (pages ++ [p]) = p.addTo (resultOf pages) := List.foldl_concat ..

theorem columns_resultOf (pages : List Page) : (resultOf pages).columns = declared pages := by
  induction pages using List.reverseRecOn with
  | nil => rfl
  | append_singleton pages p ih => rw [resultOf_concat, Page.addTo, ih, declared_concat]

/-- The columns stay the same once they are named, and no row before that holds a value. -/
theorem attributed_resultOf (pages : List Page) :
    (sheet pages).Attributed (resultOf pages) := by
  induction pages using List.reverseRecOn with
  | nil => exact .nil
  | append_singleton pages p ih =>
    have hbefore : List.Forall₂ (Row.Attributed ((declared (pages ++ [p])).map some))
        (pages.flatMap Page.values) (resultOf pages).rows := by
      refine List.Forall₂.imp (fun values row h column value hget => ?_) ih
      obtain ⟨j, hcolumn, hvalue⟩ := h column value hget
      have hsome : (declared pages).isEmpty = false := by
        cases hnone : declared pages with
        | nil =>
          rw [sheet, hnone] at hcolumn
          cases hcolumn
        | cons => rfl
      rw [declared_concat, hsome]
      exact ⟨j, hcolumn, hvalue⟩
    have hadded : List.Forall₂ (Row.Attributed ((declared (pages ++ [p])).map some)) p.values
        (p.values.map (Row.zip (declared (pages ++ [p])))) := by
      rw [List.forall₂_map_right_iff, List.forall₂_same]
      exact fun values _ => Row.attributed_zip _ values
    have hrows : (resultOf (pages ++ [p])).rows =
        (resultOf pages).rows ++ p.values.map (Row.zip (declared (pages ++ [p]))) := by
      rw [← columns_resultOf, resultOf_concat]
      rfl
    rw [Sheet.Attributed, hrows, sheet, List.flatMap_append, List.flatMap_singleton]
    exact List.rel_append hbefore hadded

/-- A chain of pages that arrive without an error gives what they hold together. -/
theorem yields_of_chain (e : EngineSettings) {chain : List Delivery} {urls : List String}
    (hlinks : chain.map (·.page.next) = urls.map some ++ [none]) (hsound : ∀ d ∈ chain, d.Sound) :
    (service e).Yields (chain.map Delivery.reply) (resultOf (chain.map Delivery.page)) := by
  obtain ⟨before, last, rfl⟩ : ∃ before last, chain = before ++ [last] := by
    rcases List.eq_nil_or_concat chain with rfl | ⟨before, last, hchain⟩
    · exact absurd (congrArg List.length hlinks) (by simp)
    · exact ⟨before, last, by rw [hchain, List.concat_eq_append]⟩
  have hnext : last.page.next = none := by
    have h := congrArg List.getLast? hlinks
    simpa using h
  obtain ⟨harrives, herror⟩ := hsound last (List.mem_append_right _ List.mem_cons_self)
  have hfresh : Jobs.get? "" ([] : Jobs String) = none := rfl
  obtain ⟨phase, hsoFar, hplay⟩ := play_execute_chain e
    (fun d hd => hsound d (List.mem_append_left _ hd)) hlinks (Nat.lt_succ_self _) hfresh 60 "" []
  have hresume : resume e phase last.reply =
      .finish .release (.ok (resultOf ((before ++ [last]).map Delivery.page))) := by
    rw [resume_of_arrives e phase harrives, advance, herror, hnext, hsoFar, List.map_append,
      List.map_singleton, resultOf_concat]
    rfl
  obtain ⟨jobs', -, hplayed⟩ := hplay _ _ hresume (.inl rfl)
  rw [List.append_nil] at hplayed
  exact ⟨_, true, "", 60, "", [], _, _, hplayed⟩

/-- What a reply leads to, if it does not end the run with a fault. -/
theorem exists_page_of_resume (e : EngineSettings) (phase : Phase) (reply : Reply) :
    (∃ p, reply.Holds Page.read? p ∧ resume e phase reply = advance e phase.soFar p) ∨
      ∃ entry f, resume e phase reply = .finish entry (.error f) := by
  by_cases hpage : ∃ p, reply.Holds Page.read? p
  · obtain ⟨p, hp⟩ := hpage
    exact .inl ⟨p, hp, resume_of_arrives e phase (d := ⟨p, reply⟩) hp⟩
  · have hfails : (⟨default, reply⟩ : Delivery).Fails := fun p hp => hpage ⟨p, hp⟩
    have hunsound : ¬(⟨default, reply⟩ : Delivery).Sound := fun h => hpage ⟨_, h.1⟩
    obtain ⟨entry, f, hresume, -⟩ := exists_fault e phase (.inr hfails) hunsound
    exact .inr ⟨entry, f, hresume⟩

theorem soFar_of_ask {e : EngineSettings} {phase next : Phase} {reply : Reply}
    {entry : Entry String} {request : Request}
    (h : resume e phase reply = .ask entry request next) :
    ∃ p, reply.Holds Page.read? p ∧ next.soFar = p.addTo phase.soFar := by
  rcases exists_page_of_resume e phase reply with ⟨p, hp, hresume⟩ | ⟨entry', f, hresume⟩
  · rw [hresume, advance] at h
    split at h
    · cases h
    · split at h
      · cases h
        exact ⟨p, hp, rfl⟩
      · cases h
  · rw [hresume] at h
    cases h

theorem result_of_finish {e : EngineSettings} {phase : Phase} {reply : Reply}
    {entry : Entry String} {r : ResultSet} (h : resume e phase reply = .finish entry (.ok r)) :
    ∃ p, reply.Holds Page.read? p ∧ r = p.addTo phase.soFar := by
  rcases exists_page_of_resume e phase reply with ⟨p, hp, hresume⟩ | ⟨entry', f, hresume⟩
  · rw [hresume, advance] at h
    split at h
    · cases h
    · split at h
      · cases h
      · cases h
        exact ⟨p, hp, rfl⟩
  · rw [hresume] at h
    cases h

/-- While a run waits it holds the result of the pages that have come. -/
theorem exists_pages_of_after {e : EngineSettings} {task : String} {jobs jobs' : Jobs String}
    {request request' : Request} {phase phase' : Phase} {before : List Reply}
    (h : (service e).after task (jobs, .waiting request phase) before =
      (jobs', .waiting request' phase')) :
    ∃ pages, List.Forall₂ (fun reply p => reply.Holds Page.read? p) before pages ∧
      phase'.soFar = pages.foldl (fun r p => p.addTo r) phase.soFar := by
  induction before generalizing jobs request phase with
  | nil =>
    cases h
    exact ⟨[], .nil, rfl⟩
  | cons reply before ih =>
    have hrest : (service e).after task ((service e).receive task jobs reply
        (.waiting request phase)) before = (jobs', .waiting request' phase') := h
    obtain ⟨jobs₁, request₁, phase₁, hreceive⟩ := Service.exists_waiting_of_after hrest
    obtain ⟨entry, hask⟩ := Service.ask_of_receive hreceive
    obtain ⟨p, hp, hsoFar⟩ := soFar_of_ask hask
    rw [hreceive] at hrest
    obtain ⟨pages, hpages, hlast⟩ := ih hrest
    exact ⟨p :: pages, .cons hp hpages, by rw [hlast, hsoFar, List.foldl_cons]⟩

/-- The replies hold these pages, one after the other. -/
def Sent (replies : List Reply) (pages : List Page) : Prop :=
  ∃ sent rest, replies = sent ++ rest ∧
    List.Forall₂ (fun reply p => reply.Holds Page.read? p) sent pages

theorem asksFirst_service (e : EngineSettings) : (service e).AsksFirst := by
  intro linked task sql entry result
  cases linked <;> nofun

theorem yields_attributed {e : EngineSettings} {replies : List Reply} {r : ResultSet}
    (h : (service e).Yields replies r) :
    ∃ pages, Sent replies pages ∧ r = resultOf pages ∧ (sheet pages).Attributed r := by
  obtain ⟨linked, task, sql, jobs, before, last, rest, jobs₁, request, phase, entry, rfl, hafter,
    hlast⟩ := h.exists_finish (asksFirst_service e)
  cases linked with
  | false =>
    obtain ⟨_, _, _, hstart⟩ := Service.exists_waiting_of_after hafter
    cases hstart
  | true =>
    obtain ⟨pages, hpages, hsoFar⟩ := exists_pages_of_after hafter
    obtain ⟨p, hp, rfl⟩ := result_of_finish hlast
    have hresult : p.addTo phase.soFar = resultOf (pages ++ [p]) := by
      rw [resultOf_concat, hsoFar]
      rfl
    refine ⟨pages ++ [p], ⟨before ++ [last], rest, by simp, ?_⟩, hresult, ?_⟩
    · exact List.rel_append hpages (.cons hp .nil)
    · rw [hresult]
      exact attributed_resultOf _

end Presto

/-! ## Hive -/

namespace Hive

/-- The names on the first line that is not blank, and the cells on the others. -/
def sheet (text : List Char) : Sheet :=
  match (Text.lines text).filter fun line => !line.all Text.isBlank with
  | [] => ⟨[], []⟩
  | header :: rest =>
    ⟨((Text.fields '\t' header).map columnName).map some,
      rest.map fun line => (Text.fields '\t' line).map cellValue⟩

theorem attributed_resultOf (text : List Char) : (sheet text).Attributed (resultOf text) := by
  rw [sheet, resultOf]
  cases (Text.lines text).filter fun line => !line.all Text.isBlank with
  | nil => exact .nil
  | cons header rest =>
    rw [Sheet.Attributed, List.forall₂_map_left_iff, List.forall₂_map_right_iff, List.forall₂_same]
    exact fun line _ => Row.attributed_zip _ _

/-- A job that has ended has no result before its output is read. -/
theorem advance_ne_ok (e : EngineSettings) (directory job : String) (j : Job) (entry : Entry String)
    (r : ResultSet) : advance e directory job j ≠ .finish entry (.ok r) := by
  rw [advance]
  split
  · split <;> nofun
  · split
    · nofun
    · split <;> nofun

theorem resultOf_of_finish {e : EngineSettings} {phase : Phase} {reply : Reply}
    {entry : Entry String} {r : ResultSet} (h : resume e phase reply = .finish entry (.ok r)) :
    ∃ status text, reply = .answered status (.ok text) ∧ r = resultOf text.toList := by
  cases phase with
  | submitting directory =>
    rw [resume] at h
    split at h <;> cases h
  | polling directory job =>
    rw [resume] at h
    split at h
    · exact absurd h (advance_ne_ok _ _ _ _ _ _)
    · cases h
  | reading =>
    have houtput : outputOf reply = .ok r := (Move.finish.inj h).2
    obtain ⟨body, haccept, hbody⟩ := bind_eq_ok.mp houtput
    obtain ⟨status, rfl, -, -⟩ := Web.Reply.accept_eq_ok_iff.mp haccept
    cases body with
    | error detail => cases hbody
    | ok text =>
      cases hbody
      exact ⟨status, text, rfl, rfl⟩

/-- A job that has succeeded when it is first asked for gives what its output holds. -/
theorem yields_of_output (e : EngineSettings) {submitted report : Reply} {job : String} {j : Job}
    (hsubmitted : submitted.Holds readSubmitted? job) (hreport : report.Holds Job.read? j)
    (hstate : j.state = "SUCCEEDED") (hexit : jobFault? job j.exitValue = none) (text : String) :
    (service e).Yields [submitted, report, .answered 200 (.ok text)] (resultOf text.toList) := by
  let directory := statusDirectory e ""
  have hfirst : (service e).resume (.submitting directory) submitted =
      .ask (.hold job) (jobRequest e job) (.polling directory job) := by
    show resume e (.submitting directory) submitted = _
    rw [resume, Web.Reply.decode_eq_ok_iff.mpr hsubmitted]
  have hsecond : (service e).resume (.polling directory job) report =
      .ask .keep (outputRequest e directory) .reading := by
    show resume e (.polling directory job) report = _
    rw [resume, Web.Reply.decode_eq_ok_iff.mpr hreport]
    dsimp only
    rw [advance, if_pos hstate, hexit]
  have hread : ((service e).converse "" 60 1 (Jobs.insert "" job [])
      (.waiting (outputRequest e directory) .reading)).play [.answered 200 (.ok text)] =
        ([outputRequest e directory],
          some ([], some (.finished (.ok (resultOf text.toList))))) := rfl
  have hpolled : ((service e).converse "" 60 2 (Jobs.insert "" job [])
      (.waiting (jobRequest e job) (.polling directory job))).play
        [report, .answered 200 (.ok text)] = ([jobRequest e job, outputRequest e directory],
          some ([], some (.finished (.ok (resultOf text.toList))))) := by
    rw [Service.play_ask 60 hsecond, Entry.apply, hread]
  have hplay : ((service e).converse "" 60 3 []
      (.waiting (submitRequest e directory "") (.submitting directory))).play
        [submitted, report, .answered 200 (.ok text)] =
          ([submitRequest e directory "", jobRequest e job, outputRequest e directory],
            some ([], some (.finished (.ok (resultOf text.toList))))) := by
    rw [Service.play_ask 60 hfirst, Entry.apply, hpolled]
  exact ⟨3, true, "", 60, "", [], _, _,
    ((service e).play_execute_iff "" 60 (Ending.finished_ne_timedOut _ _)).mpr hplay⟩

/-- One of the replies has this text. -/
def Sent (replies : List Reply) (text : String) : Prop :=
  ∃ status, .answered status (.ok text) ∈ replies

theorem asksFirst_service (e : EngineSettings) : (service e).AsksFirst := by
  intro linked task sql entry result
  cases linked <;> nofun

theorem yields_attributed {e : EngineSettings} {replies : List Reply} {r : ResultSet}
    (h : (service e).Yields replies r) :
    ∃ text, Sent replies text ∧ r = resultOf text.toList ∧ (sheet text.toList).Attributed r := by
  obtain ⟨-, -, -, -, before, last, rest, -, -, phase, entry, rfl, -, hlast⟩ :=
    h.exists_finish (asksFirst_service e)
  obtain ⟨status, text, rfl, rfl⟩ := resultOf_of_finish hlast
  exact ⟨text, ⟨status, by simp⟩, rfl, attributed_resultOf text.toList⟩

end Hive

/-! ## All three -/

/-- In a result of Presto or Hive every value stands under the column declared at its position.  In
a result of Spark it does if no nameless field of the schema comes before one with a name; else each
value stands under the field that would be at its position without the nameless ones. -/
theorem results_attributed (e : EngineSettings) (replies : List Reply) (r : ResultSet) :
    ((Spark.service e).Yields replies r → ∃ payload, Spark.Sent replies payload ∧
      r = Spark.resultOfPayload payload ∧ (Spark.sheet payload).Moved r ∧
      (Row.NamesFirst (Spark.sheet payload).columns → (Spark.sheet payload).Attributed r)) ∧
    ((Presto.service e).Yields replies r → ∃ pages, Presto.Sent replies pages ∧
      r = Presto.resultOf pages ∧ (Presto.sheet pages).Attributed r) ∧
    ((Hive.service e).Yields replies r → ∃ text, Hive.Sent replies text ∧
      r = Hive.resultOf text.toList ∧ (Hive.sheet text.toList).Attributed r) := by
  refine ⟨fun h => ?_, Presto.yields_attributed, Hive.yields_attributed⟩
  obtain ⟨payload, hsent, hresult, hmoved⟩ := Spark.yields_moved h
  exact ⟨payload, hsent, hresult, hmoved, hmoved.attributed⟩

/-- A statement whose schema has a field without a name between two others, as the server reports
it, in pieces. -/
def gappedPieces : List String := [
  "\x7b\"id\":0,\"state\":\"available\",\"output\":",
  "\x7b\"status\":\"ok\",\"data\":\x7b\"application/json\":",
  "\x7b\"schema\":\x7b\"fields\":[\x7b\"name\":\"a\"\x7d,",
  "\x7b\"type\":\"int\"\x7d,\x7b\"name\":\"b\"\x7d]\x7d,",
  "\"data\":[[1,2,3]]\x7d\x7d\x7d\x7d"]

def gappedReply : Reply :=
  .answered 200 (.ok (String.ofList (gappedPieces.flatMap String.toList)))

/-- The rows of a result as JSON texts. -/
def rowTexts (r : ResultSet) : List String := r.rows.map fun row => (Json.obj row).compact

theorem exists_gapped : ∃ t r, gappedReply.Holds Spark.Statement.read? t ∧
    Spark.isRunning t.state = false ∧ Spark.resultOf t = .ok r ∧
    rowTexts r = ["\x7b\"a\":1,\"b\":2\x7d"] := by
  have hread : (((Json.unreadChars? (gappedPieces.flatMap String.toList)).bind
      Spark.Statement.read?).filter fun t => !Spark.isRunning t.state).bind
        (fun t => (Spark.resultOf t).toOption.map rowTexts) =
      some ["\x7b\"a\":1,\"b\":2\x7d"] := by decide +kernel
  obtain ⟨t, ht, hrows⟩ := Option.bind_eq_some_iff.mp hread
  obtain ⟨hstatement, hended⟩ := Option.filter_eq_some_iff.mp ht
  obtain ⟨r, hresult, hrows⟩ := Option.map_eq_some_iff.mp hrows
  rw [← String.toList_ofList (l := gappedPieces.flatMap String.toList), ← Json.unread?]
    at hstatement
  refine ⟨t, r, Reply.holds_of_read hstatement, by simpa using hended, ?_, hrows⟩
  cases hcases : Spark.resultOf t with
  | error f =>
    rw [hcases] at hresult
    cases hresult
  | ok r' =>
    rw [hcases] at hresult
    cases hresult
    rfl

/-- A job whose output is the table of guests. -/
def guestReplies : List Reply := [
  .answered 200 (.ok "\x7b\"id\":\"job_1\"\x7d"),
  .answered 200 (.ok "\x7b\"status\":\x7b\"state\":\"SUCCEEDED\"\x7d\x7d"),
  .answered 200 (.ok (String.ofList (Hive.written Hive.guestNames Hive.guestRows)))]

theorem yields_guests (e : EngineSettings) : (Hive.service e).Yields guestReplies
    (Hive.resultOf (String.ofList (Hive.written Hive.guestNames Hive.guestRows)).toList) := by
  have hsubmitted : (Reply.answered 200 (.ok "\x7b\"id\":\"job_1\"\x7d")).Holds
      Hive.readSubmitted? "job_1" := Reply.holds_of_read (by decide +kernel)
  have hjob : (Reply.answered 200 (.ok
      "\x7b\"status\":\x7b\"state\":\"SUCCEEDED\"\x7d\x7d")).Holds Hive.Job.read?
        ⟨"SUCCEEDED", none, none⟩ := Reply.holds_of_read (by decide +kernel)
  exact Hive.yields_of_output e hsubmitted hjob rfl rfl _

/-- The statement with a nameless field, the pages of visits and the table of guests. -/
theorem results_attributed_gapped :
    (∃ r payload, (Spark.service .blank).Yields [gappedReply] r ∧
      rowTexts r = ["\x7b\"a\":1,\"b\":2\x7d"] ∧ r = Spark.resultOfPayload payload ∧
      (Spark.sheet payload).Moved r) ∧
    (∃ pages, Presto.Sent (Presto.visitsChain.map Presto.Delivery.reply) pages ∧
      (Presto.sheet pages).Attributed (Presto.resultOf pages)) ∧
    ∃ text, Hive.Sent guestReplies text ∧
      (Hive.sheet text.toList).Attributed (Hive.resultOf text.toList) := by
  refine ⟨?_, ?_, ?_⟩
  · obtain ⟨t, r, hholds, hended, hresult, htexts⟩ := exists_gapped
    have hyields := Spark.yields_of_holds .blank hholds hended hresult
    obtain ⟨payload, -, hpayload, hmoved, -⟩ := (results_attributed .blank _ r).1 hyields
    exact ⟨r, payload, hyields, htexts, hpayload, hmoved⟩
  · have herror : ∀ d ∈ Presto.visitsChain, d.page.error = none := by simp [Presto.visitsChain]
    have hlinks : Presto.visitsChain.map (·.page.next) = ["b", "c"].map some ++ [none] := rfl
    have hyields := Presto.yields_of_chain .blank hlinks fun d hd =>
      ⟨Presto.arrives_visitsChain d hd, herror d hd⟩
    obtain ⟨pages, hsent, hpages, hattributed⟩ := (results_attributed .blank _ _).2.1 hyields
    exact ⟨pages, hsent, hpages ▸ hattributed⟩
  · obtain ⟨text, hsent, htext, hattributed⟩ :=
      (results_attributed .blank _ _).2.2 (yields_guests .blank)
    exact ⟨text, hsent, htext ▸ hattributed⟩

/-! ## A field without a name -/

/-- The payload of the statement with a nameless field. -/
def gapped : Json :=
  .obj [("schema", .obj [("fields", .arr [.obj [("name", .str "a")], .obj [("type", .str "int")],
      .obj [("name", .str "b")]])]),
    ("data", .arr [.arr [.int 1, .int 2, .int 3]])]

def gappedStatement : Spark.Statement :=
  ⟨0, "available", some ⟨"ok", some (.obj [("application/json", gapped)]), none, none⟩⟩

/-- No decoder puts a value under another column than the one declared at its position. -/
def NeverMisplaced : Prop :=
  (∀ t payload r, Spark.Statement.payload? t = some payload → Spark.resultOf t = .ok r →
    (Spark.sheet payload).Attributed r) ∧
  (∀ pages, (Presto.sheet pages).Attributed (Presto.resultOf pages)) ∧
  ∀ text, (Hive.sheet text).Attributed (Hive.resultOf text)

/-- The second value comes under the name of the third field. -/
theorem misplaced_after_nameless : ¬NeverMisplaced := by
  rintro ⟨hspark, -, -⟩
  have hrows := hspark gappedStatement gapped ⟨["a", "b"], [[("a", .int 1), ("b", .int 2)]]⟩ rfl rfl
  obtain ⟨row, rest, hrow, -, hall⟩ := List.forall₂_cons_left_iff.mp hrows
  cases hall
  obtain ⟨j, hcolumn, hvalue⟩ := hrow "b" (.int 2) rfl
  have hcolumns : (Spark.sheet gapped).columns = [some "a", none, some "b"] := rfl
  rw [hcolumns] at hcolumn
  match j with
  | 0 => exact absurd hcolumn (by decide)
  | 1 => exact absurd hcolumn (by decide)
  | 2 => cases hvalue
  | j + 3 => cases hcolumn

end QueryDesk
