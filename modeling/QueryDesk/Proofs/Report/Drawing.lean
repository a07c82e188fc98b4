import Mathlib.Data.List.Forall2
import QueryDesk.Report.Chart

/-!
# Charts line up

Labels, series and colours of a chart are made apart, each in a pass of its own over the same rows.
`Aligned` says what keeps them together: one label for each row, one series for each further column,
one value for each row in every series.  What is drawn at all is settled by the intent, the number
of columns and, for a pie, the number of rows (`ofRows_cases`); the rest is empty or a table
(`charts_aligned`).

The colour of a series moves on with its number, out of the range of a channel after some columns;
the channels are cut to it (`rgba_isRgba`).  The hue of a slice is an angle and goes round
(`sliceColor_isHsl`).
-/

namespace QueryDesk.Report.Chart

/-! ## What is drawn -/

/-- The kinds of charts that are drawn. -/
inductive Kind where
  | bar (horizontal : Bool)
  | line
  | pie
deriving DecidableEq

/-- The kind and the data of a chart that is drawn. -/
def drawing? : Chart → Option (Kind × ChartData)
  | bar horizontal data _ => some (.bar horizontal, data)
  | line data _ => some (.line, data)
  | pie data _ => some (.pie, data)
  | table .. | empty .. => none

/-- The kind of chart that an intent asks for of so many rows. -/
inductive Suits (rows : Nat) : Intent → Kind → Prop
  | statistics : Suits rows .statistics (.bar false)
  | ranking : Suits rows .ranking (.bar true)
  | trend : Suits rows .trend .line
  | distribution (h : rows ≤ 20) : Suits rows .distribution .pie

theorem Suits.unique {rows : Nat} {intent : Intent} {kind kind' : Kind}
    (h : Suits rows intent kind) (h' : Suits rows intent kind') : kind = kind' := by
  cases h <;> cases h' <;> rfl

/-! ## Colours -/

/-- A colour whose channels of red, green and blue go from 0 to 255. -/
def IsRgba (color : String) : Prop :=
  ∃ (r g b : Fin 256) (opacity : String), opacity ∈ ["1", "0.6", "0.2"] ∧
    color = "rgba(" ++ toString r.val ++ ", " ++ toString g.val ++ ", " ++ toString b.val ++ ", " ++
      opacity ++ ")"

/-- A colour whose hue, an angle in half degrees, goes once around the circle. -/
def IsHsl (color : String) : Prop :=
  ∃ halves : Fin 720, color = "hsl(" ++ toString (halves.val / 2) ++
    (if halves.val % 2 = 1 then ".5" else "") ++ ", 70%, 50%)"

/-- The colours of a series: one for each point in a pie, one for all of them in other charts. -/
def Kind.Colored (points : Nat) : Kind → Colors → Prop
  | .pie, .each colors => colors.length = points ∧ ∀ color ∈ colors, IsHsl color
  | .bar _, .single color => IsRgba color
  | .line, .single color => IsRgba color
  | _, _ => False

theorem channel_lt (n : Int) : channel n < 256 := by
  unfold channel
  split
  · omega
  · split <;> omega

theorem rgba_isRgba (r g b : Int) {opacity : String} (h : opacity ∈ ["1", "0.6", "0.2"]) :
    IsRgba (rgba r g b opacity) :=
  ⟨⟨_, channel_lt r⟩, ⟨_, channel_lt g⟩, ⟨_, channel_lt b⟩, opacity, h, rfl⟩

theorem sliceColor_isHsl (i : Nat) : IsHsl (sliceColor i) :=
  ⟨⟨hueHalves i, Nat.mod_lt _ (by decide)⟩, rfl⟩

/-! ## Series -/

/-- A value drawn for a row: the row's own in the column, or zero where it has none. -/
def Plots (column : String) (row : Row) (value : Json) : Prop :=
  Json.Members.get? column row = some value ∨
    Json.Members.get? column row = none ∧ value = .int 0

/-- A series of a chart: the values of a column, one for each row in order. -/
structure Draws (kind : Kind) (rows : List Row) (column : String) (d : Dataset) : Prop where
  label : d.label = if kind = .pie then none else some column
  values : List.Forall₂ (Plots column) rows d.data
  background : kind.Colored rows.length d.background
  border : kind.Colored rows.length d.border

/-- Labels from the first column, one for each row in order, and a series for each of the others in
order, of which a pie has one. -/
structure Aligned (kind : Kind) (rows : List Row) (first : String) (others : List String)
    (data : ChartData) : Prop where
  labels : List.Forall₂ (fun row label => label = cellAt row first) rows data.labels
  datasets : List.Forall₂ (Draws kind rows) (if kind = .pie then others.take 1 else others)
    data.datasets

theorem forall₂_labels (rows : List Row) (column : String) :
    List.Forall₂ (fun row label => label = cellAt row column) rows (labels rows column) :=
  List.forall₂_map_right_iff.mpr (List.forall₂_same.mpr fun _ _ => rfl)

theorem forall₂_series (rows : List Row) (column : String) :
    List.Forall₂ (Plots column) rows (series rows column) := by
  refine List.forall₂_map_right_iff.mpr (List.forall₂_same.mpr fun row _ => ?_)
  unfold Plots
  cases Json.Members.get? column row with
  | none => exact Or.inr ⟨rfl, rfl⟩
  | some value => exact Or.inl rfl

theorem barDataset_draws (horizontal : Bool) (rows : List Row) (i : Nat) (column : String) :
    Draws (.bar horizontal) rows column (barDataset rows i column) where
  label := rfl
  values := forall₂_series rows column
  background := rgba_isRgba _ _ _ (by decide)
  border := rgba_isRgba _ _ _ (by decide)

theorem lineDataset_draws (rows : List Row) (i : Nat) (column : String) :
    Draws .line rows column (lineDataset rows i column) where
  label := rfl
  values := forall₂_series rows column
  background := rgba_isRgba _ _ _ (by decide)
  border := rgba_isRgba _ _ _ (by decide)

/-- However the series depends on its number, it is that of the column with this number. -/
theorem forall₂_datasets {R : String → Dataset → Prop} {draw : Nat → String → Dataset}
    (h : ∀ i column, R column (draw i column)) (columns : List String) :
    List.Forall₂ R columns (datasets draw columns) := by
  unfold datasets
  rw [List.forall₂_iff_get]
  refine ⟨List.length_mapIdx.symm, fun i hi hi' => ?_⟩
  simpa using h (i + 1) columns[i]

theorem sliceColors_colored (rows : List Row) :
    Kind.Colored rows.length .pie (.each ((List.range rows.length).map sliceColor)) := by
  refine ⟨by rw [List.length_map, List.length_range], fun color hcolor => ?_⟩
  obtain ⟨i, -, rfl⟩ := List.mem_map.mp hcolor
  exact sliceColor_isHsl i

/-! ## Charts -/

variable {rows : List Row} {columns : List String} {intent : Intent}

/-- With a column beside that of the labels, the chart is drawn that suits the intent. -/
theorem ofRows_of_suits {kind : Kind} {first second : String} {more : List String}
    (hrows : rows ≠ []) (hshown : effectiveColumns rows columns = first :: second :: more)
    (hsuits : Suits rows.length intent kind) :
    ∃ data, (ofRows rows columns intent).drawing? = some (kind, data) ∧
      Aligned kind rows first (second :: more) data := by
  have hempty : rows.isEmpty = false := by simpa using hrows
  unfold ofRows
  rw [hempty, hshown]
  cases hsuits with
  | statistics =>
    exact ⟨_, rfl, forall₂_labels rows first, forall₂_datasets (barDataset_draws false rows) _⟩
  | ranking =>
    exact ⟨_, rfl, forall₂_labels rows first, forall₂_datasets (barDataset_draws true rows) _⟩
  | trend => exact ⟨_, rfl, forall₂_labels rows first, forall₂_datasets (lineDataset_draws rows) _⟩
  | distribution h =>
    simp only [slices, Bool.false_eq_true, if_false, show rows.length ≤ maxSlices from h, if_true]
    refine ⟨_, rfl, forall₂_labels rows first, List.forall₂_cons.mpr ⟨?_, .nil⟩⟩
    exact ⟨rfl, forall₂_series rows second, sliceColors_colored rows, sliceColors_colored rows⟩

/-- Rows that no chart suits are kept as a table. -/
theorem ofRows_of_not_suits (hrows : rows ≠ [])
    (hnot : ¬∃ kind, 2 ≤ (effectiveColumns rows columns).length ∧ Suits rows.length intent kind) :
    ofRows rows columns intent = asTable rows (effectiveColumns rows columns) := by
  have hempty : rows.isEmpty = false := by simpa using hrows
  unfold ofRows
  rw [hempty]
  generalize effectiveColumns rows columns = shown at hnot ⊢
  match shown with
  | [] => cases intent <;> rfl
  | [_] => cases intent <;> rfl
  | first :: second :: more =>
    have hnone : ∀ kind, ¬Suits rows.length intent kind := by
      intro kind hsuits
      exact hnot ⟨kind, by simp, hsuits⟩
    cases intent with
    | statistics => exact absurd .statistics (hnone _)
    | ranking => exact absurd .ranking (hnone _)
    | trend => exact absurd .trend (hnone _)
    | distribution =>
      have hmany : ¬rows.length ≤ maxSlices := fun h => hnone _ (.distribution h)
      simp [slices, hmany]
    | analysis | comparison | filter | aggregation | correlation | unknown => rfl

theorem ofRows_cases (rows : List Row) (columns : List String) (intent : Intent) :
    (rows = [] ∧ ∃ error, ofRows rows columns intent = .empty [] error) ∨
    (rows ≠ [] ∧
      (¬∃ kind, 2 ≤ (effectiveColumns rows columns).length ∧ Suits rows.length intent kind) ∧
      ofRows rows columns intent = asTable rows (effectiveColumns rows columns)) ∨
    ∃ kind data first second more, rows ≠ [] ∧
      effectiveColumns rows columns = first :: second :: more ∧ Suits rows.length intent kind ∧
      (ofRows rows columns intent).drawing? = some (kind, data) ∧
      Aligned kind rows first (second :: more) data := by
  by_cases hrows : rows = []
  · exact Or.inl ⟨hrows, _, by rw [ofRows, hrows]; rfl⟩
  refine Or.inr ?_
  by_cases hsuits : ∃ kind, 2 ≤ (effectiveColumns rows columns).length ∧
      Suits rows.length intent kind
  · obtain ⟨kind, htwo, hsuits⟩ := hsuits
    match hshown : effectiveColumns rows columns with
    | [] | [_] => simp [hshown] at htwo
    | first :: second :: more =>
      obtain ⟨data, hdrawn, haligned⟩ := ofRows_of_suits hrows hshown hsuits
      exact Or.inr ⟨kind, data, first, second, more, hrows, rfl, hsuits, hdrawn, haligned⟩
  · exact Or.inl ⟨hrows, hsuits, ofRows_of_not_suits hrows hsuits⟩

/-- Charts stay aligned with the rows they are drawn of.  The chart is empty exactly if there are no
rows; else it is the one that suits the intent exactly if there are two columns, and a table of all
rows exactly if there are not or none suits it; and what is drawn has its labels, series and values
where the rows and columns have them. -/
theorem charts_aligned (rows : List Row) (columns : List String) (intent : Intent) :
    let shown := effectiveColumns rows columns
    let chart := ofRows rows columns intent
    ((∃ error, chart = .empty [] error) ↔ rows = []) ∧
    (∀ kind, (∃ data, chart.drawing? = some (kind, data)) ↔
      rows ≠ [] ∧ 2 ≤ shown.length ∧ Suits rows.length intent kind) ∧
    ((∃ message, chart = .table shown rows message) ↔
      rows ≠ [] ∧ ¬∃ kind, 2 ≤ shown.length ∧ Suits rows.length intent kind) ∧
    ∀ kind data, chart.drawing? = some (kind, data) → ∃ first second more,
      shown = first :: second :: more ∧ Aligned kind rows first (second :: more) data := by
  intro shown chart
  rcases ofRows_cases rows columns intent with ⟨hrows, error, hchart⟩ | ⟨hrows, hnot, hchart⟩ |
    ⟨kind, data, first, second, more, hrows, hshown, hsuits, hdrawn, haligned⟩
  · have hnone : chart.drawing? = none := congrArg drawing? hchart
    refine ⟨iff_of_true ⟨error, hchart⟩ hrows, fun kind => ?_, ?_, fun kind data h => ?_⟩
    · exact iff_of_false (by simp [hnone]) fun h => h.1 hrows
    · exact iff_of_false (by simp [chart, hchart]) fun h => h.1 hrows
    · simp [hnone] at h
  · have hnone : chart.drawing? = none := congrArg drawing? hchart
    refine ⟨?_, fun kind => ?_, ?_, fun kind data h => ?_⟩
    · exact iff_of_false (by simp [chart, hchart, asTable]) hrows
    · exact iff_of_false (by simp [hnone]) fun h => hnot ⟨kind, h.2⟩
    · exact iff_of_true ⟨_, hchart⟩ ⟨hrows, hnot⟩
    · simp [hnone] at h
  · have htwo : 2 ≤ shown.length := by simp [shown, hshown]
    have hsome : chart.drawing? = some (kind, data) := hdrawn
    have hother : ∀ other : Chart, other.drawing? = none → chart ≠ other := by
      rintro _ hnone rfl
      rw [hsome] at hnone
      cases hnone
    refine ⟨?_, fun kind' => ⟨?_, ?_⟩, ?_, fun kind' data' h => ?_⟩
    · exact iff_of_false (fun ⟨_, hchart⟩ => hother _ rfl hchart) hrows
    · rintro ⟨data', h⟩
      cases hsome.symm.trans h
      exact ⟨hrows, htwo, hsuits⟩
    · rintro ⟨-, -, hsuits'⟩
      obtain rfl := hsuits.unique hsuits'
      exact ⟨data, hsome⟩
    · exact iff_of_false (fun ⟨_, hchart⟩ => hother _ rfl hchart)
        fun h => h.2 ⟨kind, htwo, hsuits⟩
    · cases hsome.symm.trans h
      exact ⟨first, second, more, hshown, haligned⟩

/-- Rows of cities that differ in their keys. -/
def cityRows : List Row :=
  [[("city", .str "Rome"), ("c1", .int 3)], [("c14", .null), ("city", .str "Oslo")],
    [("c2", .int 7)]]

/-- More columns than there are steps of a colour. -/
def cityColumns : List String := "city" :: (List.range' 1 14).map fun i => "c" ++ toString i

/-- Rows of a pie with a slice too many. -/
def sliceRows : List Row := List.replicate 21 [("city", .str "Rome"), ("n", .int 3)]

/-- The last colour of the lines is cut at both ends, and the pie is a table. -/
theorem charts_aligned_cities :
    cityRows ≠ [] ∧ 2 ≤ (effectiveColumns cityRows cityColumns).length ∧
      (∃ data, (ofRows cityRows cityColumns .trend).drawing? = some (.line, data) ∧
        Aligned .line cityRows "city" cityColumns.tail data ∧
        data.datasets.getLast?.map Dataset.background = some (.single "rgba(255, 0, 52, 0.2)")) ∧
      sliceRows ≠ [] ∧
      (¬∃ kind, 2 ≤ (effectiveColumns sliceRows []).length ∧
        Suits sliceRows.length .distribution kind) ∧
      ∃ message, ofRows sliceRows [] .distribution = .table ["city", "n"] sliceRows message := by
  have htwo : 2 ≤ (effectiveColumns cityRows cityColumns).length := by decide +kernel
  have hnone : ¬∃ kind, 2 ≤ (effectiveColumns sliceRows []).length ∧
      Suits sliceRows.length .distribution kind := by
    rintro ⟨kind, -, hsuits⟩
    cases hsuits with
    | distribution h => exact absurd h (by decide)
  obtain ⟨-, hdrawn, -, haligned⟩ := charts_aligned cityRows cityColumns .trend
  obtain ⟨-, -, htable, -⟩ := charts_aligned sliceRows [] .distribution
  obtain ⟨data, hdata⟩ := (hdrawn .line).mpr ⟨List.cons_ne_nil _ _, htwo, .trend⟩
  obtain ⟨first, second, more, hshown, hdata'⟩ := haligned .line data hdata
  obtain ⟨rfl, hothers⟩ := List.cons.inj (show "city" :: cityColumns.tail = first :: second :: more
    from hshown)
  have hlast : ((ofRows cityRows cityColumns .trend).drawing?.bind fun drawn =>
      drawn.2.datasets.getLast?).map Dataset.background =
        some (.single "rgba(255, 0, 52, 0.2)") := by
    decide +kernel
  rw [hdata] at hlast
  exact ⟨List.cons_ne_nil _ _, htwo, ⟨data, hdata, hothers ▸ hdata', hlast⟩, List.cons_ne_nil _ _,
    hnone, htable.mpr ⟨List.cons_ne_nil _ _, hnone⟩⟩

end QueryDesk.Report.Chart
