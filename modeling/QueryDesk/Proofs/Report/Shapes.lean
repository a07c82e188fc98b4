import QueryDesk.Proofs.Json.Records
import QueryDesk.Proofs.Sql.Generation
import QueryDesk.Proofs.Understanding.Confidence
import QueryDesk.Report.Envelope

/-!
# Payloads read back

A payload is written without a tag and read as the first shape that fits.  No shape fits the value
of a later one, because each has a member that the later ones lack: a listing its summary, a table
its widths, a chart its type (`Listing.ofJson?_eq_none` and the like).  So a payload whose doubles
are finite is read back as it was (`Payload.ofJson?_toJson`), and the doubles of an answer
and of its pages are: the confidence of the query and the tension of the lines drawn.
-/

namespace QueryDesk.Report

open Json

/-! ## Charts -/

theorem Colors.ofJson?_toJson (c : Colors) : ofJson? c.toJson = some c := by
  cases c with
  | single color => rfl
  | each colors =>
    have hcolors : (colors.map Json.str).mapM asString? = some colors :=
      mapM_map_of_forall fun _ _ => rfl
    simp only [toJson, ofStrings, ofJson?, hcolors, Option.map_some]

/-- The slot of a member that is left out when absent. -/
def slotIf : Option Json → Slot Json
  | some v => .present v
  | none => .missing

theorem slotIf_optional {α : Type} {decode : Json → Option α} {encode : α → Json} {o : Option α}
    (hnull : decode .null = none) (h : ∀ a ∈ o, decode (encode a) = some a) :
    (slotIf (o.map encode)).optional decode = some o := by
  cases o with
  | none => rfl
  | some a => exact Slot.optional_present hnull (h a rfl)

/-- The doubles of a series are finite. -/
def Dataset.Finite (d : Dataset) : Prop := ∀ x ∈ d.tension, x.isFinite = true

theorem Dataset.slots?_toJson (d : Dataset) :
    slots? ["label", "data", "backgroundColor", "borderColor", "borderWidth", "tension"] d.toJson =
      some [slotIf (d.label.map .str), .present (.arr d.data), .present d.background.toJson,
        .present d.border.toJson, slotIf (d.borderWidth.map fun n => .ofNat n.toNat),
        slotIf (d.tension.map .ofFloat)] := by
  obtain ⟨label, data, background, border, borderWidth, tension⟩ := d
  cases label <;> cases borderWidth <;> cases tension <;>
    simp [toJson, memberIf, slots?_cons, slots?_skip, slotIf]

theorem Dataset.ofJson?_toJson {d : Dataset} (h : d.Finite) : ofJson? d.toJson = some d := by
  have hlabel : (slotIf (d.label.map Json.str)).optional asString? = some d.label :=
    slotIf_optional rfl fun _ _ => rfl
  have hwidth : (slotIf (d.borderWidth.map fun n => .ofNat n.toNat)).optional uint32? =
      some d.borderWidth := slotIf_optional rfl fun n _ => uint32?_ofNat n
  have htension : (slotIf (d.tension.map ofFloat)).optional asFloat? = some d.tension :=
    slotIf_optional rfl fun x hx => asFloat?_ofFloat (h x hx)
  simp [ofJson?, Dataset.slots?_toJson, hlabel, hwidth, htension, Colors.ofJson?_toJson]

theorem ChartData.ofJson?_toJson {c : ChartData} (h : ∀ d ∈ c.datasets, d.Finite) :
    ofJson? c.toJson = some c := by
  have hdatasets : list? Dataset.ofJson? (.arr (c.datasets.map Dataset.toJson)) =
      some c.datasets := list?_arr fun d hd => Dataset.ofJson?_toJson (h d hd)
  simp [ofJson?, toJson, slots?_cons, hdatasets]

theorem ChartOptions.ofJson?_toJson (o : ChartOptions) : ofJson? o.toJson = some o := by
  simp [ofJson?, toJson, slots?_cons, pluginsOfJson?, legendOfJson?, titleOfJson?]

/-- The series that a chart draws. -/
def Chart.allSeries : Chart → List Dataset
  | .bar _ data _ | .line data _ | .pie data _ => data.datasets
  | .table .. | .empty .. => []

theorem Chart.ofJson?_toJson {c : Chart} (h : ∀ d ∈ c.allSeries, d.Finite) :
    ofJson? c.toJson = some c := by
  cases c with
  | bar horizontal data options | line data options | pie data options =>
    have hdata : ChartData.ofJson? data.toJson = some data := ChartData.ofJson?_toJson h
    simp [ofJson?, toJson, Members.get?_cons_self, ofType?, drawn?, slots?_pass, slots?_cons,
      hdata, ChartOptions.ofJson?_toJson]
  | table columns data message | empty data error =>
    simp [ofJson?, toJson, Members.get?_cons_self, ofType?, slots?_pass, slots?_cons]

/-! ## The other shapes -/

theorem Table.ofJson?_toJson (t : Table) : ofJson? t.toJson = some t := by
  have hwidths : list? nat? (.arr (t.widths.map ofNat)) = some t.widths :=
    list?_arr fun n _ => nat?_ofNat n
  simp [ofJson?, toJson, slots?_cons, hwidths]

theorem Listing.ofJson?_toJson {l : Listing} (h : l.confidence.isFinite = true) :
    ofJson? l.toJson = some l := by
  simp [ofJson?, toJson, summaryOfJson?, slots?_cons, asFloat?_ofFloat h]

theorem Pagination.ofJson?_toJson (p : Pagination) : ofJson? p.toJson = some p := by
  simp [ofJson?, toJson, slots?_cons]

/-- Columns that are left out are read as none. -/
theorem PagedRows.ofJson?_toJson (p : PagedRows) : ofJson? p.toJson = some p := by
  obtain ⟨columns, rows, pagination⟩ := p
  cases columns with
  | nil => simp [ofJson?, toJson, slots?_skip, slots?_cons, Pagination.ofJson?_toJson]
  | cons column more => simp [ofJson?, toJson, slots?_cons, Pagination.ofJson?_toJson]

/-! ## Telling the shapes apart -/

theorem Listing.ofJson?_eq_none {ms : Members} (h : "summary" ∉ ms.map Prod.fst) :
    ofJson? (.obj ms) = none := by
  simp [ofJson?, slots?, Members.get?_eq_none h]

theorem Table.ofJson?_eq_none {ms : Members} (h : "column_widths" ∉ ms.map Prod.fst) :
    ofJson? (.obj ms) = none := by
  simp [ofJson?, slots?, Members.get?_eq_none h]

theorem Chart.ofJson?_eq_none {ms : Members} (h : "type" ∉ ms.map Prod.fst) :
    ofJson? (.obj ms) = none := by
  simp [ofJson?, Members.get?_eq_none h]

/-- A chart's value is no object with a summary or with widths. -/
theorem Chart.toJson_fits_no_earlier (c : Chart) :
    Listing.ofJson? c.toJson = none ∧ c.toJson.asString? = none ∧
      Table.ofJson? c.toJson = none := by
  cases c <;>
    exact ⟨Listing.ofJson?_eq_none (by simp), rfl, Table.ofJson?_eq_none (by simp)⟩

theorem PagedRows.toJson_fits_no_earlier (p : PagedRows) :
    Listing.ofJson? p.toJson = none ∧ p.toJson.asString? = none ∧
      Table.ofJson? p.toJson = none ∧ Chart.ofJson? p.toJson = none := by
  unfold toJson
  refine ⟨Listing.ofJson?_eq_none ?_, rfl, Table.ofJson?_eq_none ?_, Chart.ofJson?_eq_none ?_⟩ <;>
    split <;> simp

/-- The doubles of a payload, beside those in its rows, are finite. -/
def Payload.Finite : Payload → Prop
  | .listing l => l.confidence.isFinite = true
  | .chart c => ∀ d ∈ c.allSeries, d.Finite
  | .csv _ | .table _ | .page _ => True

theorem Payload.ofJson?_toJson {p : Payload} (h : p.Finite) :
    ofJson? p.toJson = some p := by
  cases p with
  | listing l => simp [ofJson?, toJson, Listing.ofJson?_toJson h]
  | csv text => rfl
  | table t =>
    have hlisting : Listing.ofJson? t.toJson = none := Listing.ofJson?_eq_none (by simp)
    have hcsv : t.toJson.asString? = none := rfl
    simp [ofJson?, toJson, hlisting, hcsv, t.ofJson?_toJson]
  | chart c =>
    obtain ⟨hlisting, hcsv, htable⟩ := c.toJson_fits_no_earlier
    simp [ofJson?, toJson, hlisting, hcsv, htable, Chart.ofJson?_toJson h]
  | page p =>
    obtain ⟨hlisting, hcsv, htable, hchart⟩ := p.toJson_fits_no_earlier
    simp [ofJson?, toJson, hlisting, hcsv, htable, hchart, p.ofJson?_toJson]

/-! ## Answers and their pages -/

theorem Chart.mem_datasets {draw : Nat → String → Dataset} {columns : List String} {d : Dataset}
    (h : d ∈ datasets draw columns) : ∃ i column, d = draw i column := by
  obtain ⟨i, hi, hd⟩ := List.mem_mapIdx.mp h
  exact ⟨i + 1, columns[i], hd.symm⟩

theorem Chart.finite_bars (horizontal : Bool) (rows : List Row) (columns : List String) :
    ∀ d ∈ (bars horizontal rows columns).allSeries, d.Finite := by
  unfold bars
  split
  · intro d hd
    obtain ⟨i, column, rfl⟩ := mem_datasets hd
    exact nofun
  · exact nofun

/-- The series of a line chart all have the one tension. -/
theorem Chart.finite_lines (rows : List Row) (columns : List String) :
    ∀ d ∈ (lines rows columns).allSeries, d.Finite := by
  unfold lines
  split
  · intro d hd
    obtain ⟨i, column, rfl⟩ := mem_datasets hd
    rintro x ⟨⟩
    decide
  · exact nofun

theorem Chart.finite_slices (rows : List Row) (columns : List String) :
    ∀ d ∈ (slices rows columns).allSeries, d.Finite := by
  unfold slices
  split
  · split
    · intro d hd
      rw [List.mem_singleton.mp hd]
      exact nofun
    · exact nofun
  · exact nofun

theorem Chart.finite_ofRows (rows : List Row) (columns : List String) (intent : Intent) :
    ∀ d ∈ (ofRows rows columns intent).allSeries, d.Finite := by
  unfold ofRows
  split
  · exact nofun
  · cases intent with
    | statistics => exact finite_bars false rows _
    | ranking => exact finite_bars true rows _
    | trend => exact finite_lines rows _
    | distribution => exact finite_slices rows _
    | _ => exact nofun

theorem Payload.finite_ofRows {q : Query} (h : q.confidence.isFinite = true) (format : Format)
    (rows : List Row) (columns : List String) : (ofRows format rows columns q).Finite := by
  cases format with
  | json => exact h
  | chart => exact Chart.finite_ofRows rows columns q.intent.intent
  | csv | table => trivial

theorem Payload.finite_paginate {p : Payload} (h : p.Finite) (page pageSize : Nat) :
    (p.paginate page pageSize).Finite := by
  cases p with
  | csv | chart => exact h
  | listing | table | page => trivial

/-- What an answer holds, if anything, is finite. -/
def Envelope.Finite (e : Envelope) : Prop := ∀ p ∈ e.data?, p.Finite

theorem Envelope.finite_ofOutcome {q : Query} (h : q.confidence.isFinite = true) (now : String)
    (o : Outcome) (format : Format) : (ofOutcome now o q format).Finite := by
  unfold ofOutcome
  split
  · rintro p ⟨⟩
    exact Payload.finite_ofRows h format o.rows o.columns
  · exact nofun

theorem Envelope.finite_paginate {e : Envelope} (h : e.Finite) (page pageSize : Nat) :
    (e.paginate page pageSize).Finite := by
  obtain ⟨content, metadata, queryInfo, batchIndex⟩ := e
  cases content with
  | success p =>
    rintro _ ⟨⟩
    exact Payload.finite_paginate (h p rfl) page pageSize
  | failure error => exact nofun

theorem Envelope.finite_pages {e : Envelope} (h : e.Finite) (steps : List (Nat × Nat)) :
    ∀ e' ∈ e.pages steps, e'.Finite := by
  induction steps generalizing e with
  | nil =>
    intro e' he'
    rw [List.mem_singleton.mp he']
    exact h
  | cons step steps ih =>
    intro e' he'
    rcases List.mem_cons.mp he' with rfl | hlater
    · exact h
    · exact ih (finite_paginate h step.1 step.2) e' hlater

/-- Payload shapes are never confused.  The data of an answer, and of the answer after any number of
pages taken one of the other, is written as a value that is read as the same data: in the shape it
was, with the columns, rows, summary, widths, series or place it had.  The confidence of the query
has to be a number that JSON has; that of a query that was built is
(`QueryDraft.confidence_inRange`, `InRange.isFinite`). -/
theorem Envelope.ofJson?_toJson_pages {q : Query} (h : q.confidence.isFinite = true) (now : String)
    (o : Outcome) (format : Format) (steps : List (Nat × Nat)) :
    ∀ e ∈ (ofOutcome now o q format).pages steps, ∀ p ∈ e.data?,
      Payload.ofJson? p.toJson = some p := by
  intro e he p hp
  have hfinite : e.Finite := finite_pages (finite_ofOutcome h now o format) steps e he
  exact Payload.ofJson?_toJson (hfinite p hp)

/-- A run over rows whose columns are named as the members of the shapes are. -/
def lookalikes : Outcome :=
  .completed none [] [[("type", .str "bar"), ("summary", .null), ("column_widths", .arr [])],
    [("pagination", .float 1.0)]] 0.5

/-- Asks how the rows develop, which is drawn in lines. -/
def trends : Query := { Query.ofTable "visits" [] none none with
  intent := ⟨.trend, 1.0, ⟨none, none, none, none⟩, ""⟩ }

theorem ofJson?_toJson_pages_lookalikes :
    Payload.ofJson? (Payload.ofRows .chart lookalikes.rows lookalikes.columns trends).toJson =
        some (.ofRows .chart lookalikes.rows lookalikes.columns trends) ∧
      Payload.ofJson? (Payload.page (.of lookalikes.columns lookalikes.rows 2 1)).toJson =
        some (.page (.of lookalikes.columns lookalikes.rows 2 1)) := by
  have hconfidence : trends.confidence.isFinite = true := by decide
  constructor
  · exact Envelope.ofJson?_toJson_pages hconfidence "" lookalikes .chart [(1, 1)] _
      List.mem_cons_self _ rfl
  · exact Envelope.ofJson?_toJson_pages hconfidence "" lookalikes .json [(2, 1)] _
      (List.mem_cons_of_mem _ List.mem_cons_self) _ rfl

end QueryDesk.Report
