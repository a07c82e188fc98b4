import QueryDesk.Proofs.Agent.Answering
import QueryDesk.Proofs.Report.CsvExport

/-!
# Answers hold data or an error

An answer is made of an outcome whose parts need not fit together: one that was read back may be a
failure with rows, a failure without an error, or a success with an error.  Its success alone
decides, and all that is done to the answer later keeps to it (`Envelope.edited_spec`): a page is
cut of rows and of nothing else, and details are put beside the data.

A file is then written of data that has a text in the file's format.  For all else there is a fault
before anything is written: that of a failure, or that of a chart as comma-separated rows
(`Envelope.fault_of_exportText`, `answers_exclusive`).
-/

namespace QueryDesk.Report

variable {σ : Type}

/-- What may be done to an answer once it is made. -/
inductive Edit where
  | page (page pageSize : Nat)
  | details (info : Json)
  | place (index : Nat)

/-- The data of an answer once something was done to it. -/
def Edit.onData (d : Payload) : Edit → Payload
  | .page n size => d.paginate n size
  | .details _ | .place _ => d

namespace Envelope

variable (e : Envelope)

def edit : Edit → Envelope
  | .page page pageSize => e.paginate page pageSize
  | .details info => e.withQueryInfo info
  | .place index => e.withBatchIndex index

/-- The answer after several edits, one after the other. -/
def edited (edits : List Edit) : Envelope := edits.foldl edit e

/-! ## What an answer holds -/

theorem edit_spec (x : Edit) :
    (e.edit x).isSuccess = e.isSuccess ∧ (e.edit x).data? = e.data?.map (Edit.onData · x) ∧
      (e.edit x).error? = e.error? := by
  obtain ⟨content, m, info, index⟩ := e
  cases content <;> cases x <;> exact ⟨rfl, rfl, rfl⟩

theorem edited_spec (edits : List Edit) :
    (e.edited edits).isSuccess = e.isSuccess ∧
      (e.edited edits).data? = e.data?.map (edits.foldl Edit.onData) ∧
      (e.edited edits).error? = e.error? := by
  induction edits generalizing e with
  | nil => exact ⟨rfl, Option.map_id'.symm, rfl⟩
  | cons x edits ih =>
    obtain ⟨hsuccess, hdata, herror⟩ := e.edit_spec x
    obtain ⟨hsuccess', hdata', herror'⟩ := ih (e.edit x)
    refine ⟨hsuccess'.trans hsuccess, hdata'.trans ?_, herror'.trans herror⟩
    rw [hdata, Option.map_map]
    rfl

/-- The success of an outcome decides what its answer holds. -/
theorem ofOutcome_holds (now : String) (o : Outcome) (q : Query) (format : Format) :
    (ofOutcome now o q format).data? =
        (if o.success then some (.ofRows format o.rows o.columns q) else none) ∧
      (ofOutcome now o q format).error? =
        (if o.success then none else some (o.error.getD unknownError)) := by
  unfold ofOutcome
  cases o.success <;> exact ⟨rfl, rfl⟩

/-- An answer that is a success with data or a failure with an error, in itself and in its JSON
form. -/
structure Exclusive (e : Envelope) : Prop where
  data_iff : e.isSuccess = true ↔ e.data?.isSome = true
  error_iff : e.isSuccess = true ↔ e.error? = none
  success : e.toJson.get? "success" = some (.bool e.isSuccess)
  data : e.toJson.get? "data" = e.data?.map Payload.toJson
  error : e.toJson.get? "error" = e.error?.map .str

theorem exclusive : e.Exclusive := by
  obtain ⟨content, m, info, index⟩ := e
  cases content with
  | success d =>
    refine ⟨⟨fun _ => rfl, fun _ => rfl⟩, ⟨fun _ => rfl, fun _ => rfl⟩, rfl, rfl, ?_⟩
    cases info <;> cases index <;> rfl
  | failure error =>
    refine ⟨⟨nofun, nofun⟩, ⟨nofun, nofun⟩, rfl, ?_, rfl⟩
    cases info <;> cases index <;> rfl

/-! ## Pages -/

/-- A page is cut of rows: it leaves a failure, comma-separated text and a chart as they are, and of
any other answer it changes the data only. -/
structure PagesRows (e : Envelope) : Prop where
  failure : e.isSuccess = false → ∀ page pageSize, e.paginate page pageSize = e
  csv : ∀ text, e.data? = some (.csv text) → ∀ page pageSize, e.paginate page pageSize = e
  chart : ∀ c, e.data? = some (.chart c) → ∀ page pageSize, e.paginate page pageSize = e
  rows : ∀ d, e.data? = some d → (∀ text, d ≠ .csv text) → (∀ c, d ≠ .chart c) →
    ∃ columns rows, d.tabular? = some (columns, rows) ∧ ∀ page pageSize,
      e.paginate page pageSize =
        { e with content := .success (.page (.of columns rows page pageSize)) }

theorem pagesRows : e.PagesRows := by
  obtain ⟨content, m, info, index⟩ := e
  cases content with
  | failure error => exact ⟨fun _ _ _ => rfl, nofun, nofun, nofun⟩
  | success d =>
    refine ⟨nofun, ?_, ?_, ?_⟩
    · rintro text ⟨⟩ page pageSize
      rfl
    · rintro c ⟨⟩ page pageSize
      rfl
    · rintro d ⟨⟩ hcsv hchart
      cases d with
      | csv text => exact absurd rfl (hcsv text)
      | chart c => exact absurd rfl (hchart c)
      | listing l => exact ⟨_, _, rfl, fun _ _ => rfl⟩
      | table t => exact ⟨_, _, rfl, fun _ _ => rfl⟩
      | page p => exact ⟨_, _, rfl, fun _ _ => rfl⟩

/-! ## Files -/

/-- The answer is a chart, and the file is to hold comma-separated rows. -/
def IsRowless (e : Envelope) (format : FileFormat) : Prop :=
  (∃ c, e.data? = some (.chart c)) ∧ format = .csv

theorem exportText_failed_iff {format : FileFormat} {reason : String} :
    e.exportText format = .error (.failedResult reason) ↔ e.error? = some reason := by
  obtain ⟨content, m, info, index⟩ := e
  cases content with
  | failure error => exact ⟨fun h => by cases h; rfl, fun h => by cases h; rfl⟩
  | success d =>
    refine ⟨fun h => ?_, nofun⟩
    cases format with
    | json => cases h
    | csv => cases d <;> cases h

theorem exportText_noData_iff {format : FileFormat} :
    (∃ detail, e.exportText format = .error (.noData detail)) ↔ e.IsRowless format := by
  obtain ⟨content, m, info, index⟩ := e
  constructor
  · rintro ⟨detail, h⟩
    cases content with
    | failure error => cases h
    | success d =>
      cases format with
      | json => cases h
      | csv =>
        cases d with
        | chart c => exact ⟨⟨c, rfl⟩, rfl⟩
        | csv | listing | table | page => cases h
  · rintro ⟨⟨c, hc⟩, rfl⟩
    cases content with
    | failure error => cases hc
    | success d =>
      cases hc
      exact ⟨_, rfl⟩

/-- There are no other reasons for an answer to have no text. -/
theorem fault_of_exportText {format : FileFormat} {f : ExportFault}
    (h : e.exportText format = .error f) :
    (∃ reason, f = .failedResult reason) ∨ ∃ detail, f = .noData detail := by
  obtain ⟨content, m, info, index⟩ := e
  cases content with
  | failure error =>
    cases h
    exact .inl ⟨error, rfl⟩
  | success d =>
    cases format with
    | json => cases h
    | csv =>
      cases d with
      | chart c =>
        cases h
        exact .inr ⟨_, rfl⟩
      | csv | listing | table | page => cases h

/-- What comes of writing an answer to a file, in a world that holds the files. -/
structure Saves (write : String → String → StateM σ (Option String)) (path : String)
    (format : Option FileFormat) (w : σ) (e : Envelope) : Prop where
  failed_iff : ∀ reason, resultIn (e.save write path format) w = .error (.failedResult reason) ↔
    e.error? = some reason
  noData_iff : (∃ detail, resultIn (e.save write path format) w = .error (.noData detail)) ↔
    e.IsRowless (format.getD (.ofPath path))
  untouched : e.isSuccess = false ∨ e.IsRowless (format.getD (.ofPath path)) →
    worldAfter (e.save write path format) w = w
  /-- The text of any other answer is written. -/
  written : e.isSuccess = true → ¬e.IsRowless (format.getD (.ofPath path)) →
    ∃ text, e.exportTo path format = .ok text ∧
      worldAfter (e.save write path format) w = worldAfter (write path text) w ∧
      resultIn (e.save write path format) w =
        match resultIn (write path text) w with
        | some detail => .error (.fileWrite (path ++ ": " ++ detail))
        | none => .ok ()

section

variable {write : String → String → StateM σ (Option String)} {path : String}
  {format : Option FileFormat} {w : σ}

theorem save_of_error {f : ExportFault} (h : e.exportTo path format = .error f) :
    e.save write path format = pure (.error f) := by
  unfold save
  rw [h]

theorem save_of_text {text : String} (h : e.exportTo path format = .ok text) :
    worldAfter (e.save write path format) w = worldAfter (write path text) w ∧
      resultIn (e.save write path format) w =
        match resultIn (write path text) w with
        | some detail => .error (.fileWrite (path ++ ": " ++ detail))
        | none => .ok () := by
  unfold save
  rw [h]
  dsimp only
  rw [worldAfter_bind, resultIn_bind]
  cases resultIn (write path text) w <;> exact ⟨rfl, rfl⟩

/-- What stands in the way of a text stands in the way of the file. -/
theorem save_eq_error_iff {f : ExportFault} (hf : ∀ detail, f ≠ .fileWrite detail) :
    resultIn (e.save write path format) w = .error f ↔ e.exportTo path format = .error f := by
  cases htext : e.exportTo path format with
  | error f' => rw [e.save_of_error htext, resultIn_pure, Except.error.injEq, Except.error.injEq]
  | ok text =>
    rw [(e.save_of_text htext).2]
    split
    · rw [Except.error.injEq]
      exact ⟨fun h => absurd h.symm (hf _), nofun⟩
    · exact ⟨nofun, nofun⟩

theorem saves : e.Saves write path format w := by
  have hfault : ∀ f, e.exportTo path format = .error f →
      worldAfter (e.save write path format) w = w := by
    intro f htext
    rw [e.save_of_error htext, worldAfter_pure]
  refine ⟨fun reason => ?_, ?_, ?_, fun hsuccess hrows => ?_⟩
  · have hreason : ∀ detail, ExportFault.failedResult reason ≠ .fileWrite detail := nofun
    exact (e.save_eq_error_iff hreason).trans e.exportText_failed_iff
  · have hdetail : ∀ detail detail', ExportFault.noData detail ≠ .fileWrite detail' := nofun
    exact (exists_congr fun detail => e.save_eq_error_iff (hdetail detail)).trans
      e.exportText_noData_iff
  · rintro (hfailed | hrowless)
    · obtain ⟨-, reason, hreason⟩ := error_of_failure hfailed
      exact hfault _ (e.exportText_failed_iff.mpr hreason)
    · obtain ⟨detail, htext⟩ := e.exportText_noData_iff.mpr hrowless
      exact hfault _ htext
  · cases htext : e.exportTo path format with
    | ok text => exact ⟨text, rfl, e.save_of_text htext⟩
    | error f =>
      rcases e.fault_of_exportText htext with ⟨reason, rfl⟩ | ⟨detail, rfl⟩
      · have hnone := (data_of_success hsuccess).2
        rw [e.exportText_failed_iff.mp htext] at hnone
        cases hnone
      · exact absurd (e.exportText_noData_iff.mp ⟨detail, htext⟩) hrows

end

end Envelope

/-- An answer holds data or an error, never both and never neither, in itself and in its JSON form.
Whatever an outcome holds beside its success, its answer in any format is a success exactly if the
outcome is one; it then holds the outcome's rows in that format, and else the outcome's error.  So
it stays over any pages, details and places in a batch.  A page is cut of rows and of nothing else.
Written to a file, a failure gives the fault of a failed result, a chart as comma-separated rows the
fault of no data, and neither touches the world; of anything else the text is written. -/
theorem answers_exclusive {now : String} {o : Outcome} {q : Query} {format : Format}
    {edits : List Edit} {e : Envelope} (he : e = (Envelope.ofOutcome now o q format).edited edits) :
    e.Exclusive ∧ e.isSuccess = o.success ∧
      e.data? = (if o.success then
        some (edits.foldl Edit.onData (.ofRows format o.rows o.columns q)) else none) ∧
      e.error? = (if o.success then none else some (o.error.getD "unknown error")) ∧
      e.PagesRows ∧
      ∀ {σ : Type} (write : String → String → StateM σ (Option String)) (path : String)
        (wanted : Option FileFormat) (w : σ), e.Saves write path wanted w := by
  subst he
  obtain ⟨hsuccess, hdata, herror⟩ := (Envelope.ofOutcome now o q format).edited_spec edits
  obtain ⟨hdata', herror'⟩ := Envelope.ofOutcome_holds now o q format
  refine ⟨Envelope.exclusive _, hsuccess.trans (Envelope.ofOutcome_spec now o q format).1, ?_,
    herror.trans herror', Envelope.pagesRows _, fun _ _ _ _ => Envelope.saves _⟩
  rw [hdata, hdata']
  cases o.success <;> rfl

/-- An outcome that is a success with an error, and that counts rows which it does not hold. -/
def contradictory : Outcome :=
  ⟨true, some "connection lost", [[("city", .str "Paris")]], [], 3, 0.5, none⟩

/-- Files that may all be written. -/
def keep (path text : String) : StateM (List (String × String)) (Option String) :=
  fun files => (none, (path, text) :: files)

/-- Its chart has no pages, and no file of comma-separated rows is written of it. -/
theorem answers_exclusive_contradictory : ∃ e c,
    e = (Envelope.ofOutcome "" contradictory visits .chart).edited
      [.page 1 1, .details .null, .place 3] ∧
    e.isSuccess = true ∧ e.error? = none ∧ e.data? = some (.chart c) ∧
      e.paginate 2 1 = e ∧
      (∃ detail, resultIn (e.save keep "cities.csv" none) [] = .error (.noData detail)) ∧
      worldAfter (e.save keep "cities.csv" none) [] = [] := by
  obtain ⟨-, hsuccess, hdata, herror, hpages, hsaves⟩ := answers_exclusive
    (rfl : _ = (Envelope.ofOutcome "" contradictory visits .chart).edited
      [.page 1 1, .details .null, .place 3])
  have hrowless : Envelope.IsRowless _ ((none : Option FileFormat).getD (.ofPath "cities.csv")) :=
    ⟨⟨_, hdata⟩, by decide⟩
  have hsaved := hsaves keep "cities.csv" none []
  exact ⟨_, _, rfl, hsuccess, herror, hdata, hpages.chart _ hdata 2 1,
    hsaved.noData_iff.mpr hrowless, hsaved.untouched (.inr hrowless)⟩

end QueryDesk.Report
