import QueryDesk.Proofs.Fallible
import QueryDesk.Proofs.Sql.Soundness
import QueryDesk.Sql.Generator

/-!
# When generation succeeds

What the three statements of a query are made of (`statements_eq_ok_iff`), and when they are handed
out: with aggregate functions that close their literals, generation succeeds exactly if every part
does and the parentheses of the functions balance (`generate_eq_ok_iff_of_closed`).
-/

namespace QueryDesk

/-- The texts of the aggregate functions of a query, in order. -/
def Query.functions (q : Query) : List String :=
  match q.aggregation with
  | some a => a.aggregates.map (·.function)
  | none => []

/-- A query of a table of that name that asks for nothing but the given parts. -/
def Query.ofTable (table : String) (conditions : List Condition) (aggregation : Option Aggregation)
    (window : Option Window) : Query where
  originalText := ""
  intent := default
  source := ⟨table, .hive, table, none, none, defaultDateColumn⟩
  conditions := conditions
  aggregation := aggregation
  window := window
  output := .default
  analysis := .empty
  description := ""
  confidence := 1

namespace Sql

theorem closed_of_noQuote {s : String} (h : '\'' ∉ s.toList) : Closed s := by
  intro t ht
  rw [(Reads.codes h).pieces_eq] at ht
  obtain ⟨c, -, hc⟩ := List.mem_map.mp ht
  exact Piece.noConfusion hc

namespace Generator

variable {g : Generator} {q : Query} {d : Dialect}

/-! ## The parts -/

theorem statements_eq_ok_iff {s : Statements} : g.statements q d = .ok s ↔
    ∃ source cs fields filter order, table q.source d = .ok source ∧
      columns q = .ok (cs, fields) ∧ g.filter q = .ok filter ∧ Generator.order q = .ok order ∧
      s = { main := ⟨.columns cs, source, filter, fields, order, q.output.limit⟩
            count := ⟨.rowCount, source, filter, [], none, none⟩
            sample := ⟨.columns cs, source, filter, fields, none, some g.sampleSize⟩ } := by
  unfold statements
  simp only [bind_eq_ok, pure_eq_ok, Prod.exists]
  constructor
  · rintro ⟨source, hsource, cs, fields, hcolumns, filter, hfilter, order, horder, rfl⟩
    exact ⟨source, cs, fields, filter, order, hsource, hcolumns, hfilter, horder, rfl⟩
  · rintro ⟨source, cs, fields, filter, order, hsource, hcolumns, hfilter, horder, rfl⟩
    exact ⟨source, hsource, cs, fields, hcolumns, filter, hfilter, order, horder, rfl⟩

theorem functions_append (cs cs' : List Column) : (Selection.columns (cs ++ cs')).functions =
    (Selection.columns cs).functions ++ (Selection.columns cs').functions := by
  simp [Selection.functions]

theorem functions_fields (is : List Identifier) :
    (Selection.columns (is.map .field)).functions = [] := by
  simp [Selection.functions, List.filterMap_map]

theorem functions_aggregates {xs : List Aggregate} {cs : List Column}
    (h : (xs.mapM fun x => do return Column.aggregate x.function (← identifier .label x.label)) =
      .ok cs) : (Selection.columns cs).functions = xs.map (·.function) := by
  have hmap := mapM_eq_ok.mp h
  clear h
  induction hmap with
  | nil => rfl
  | @cons x c xs cs hx _ ih =>
    obtain ⟨label, -, hc⟩ := bind_eq_ok.mp hx
    obtain rfl := pure_eq_ok.mp hc
    exact congrArg (x.function :: ·) ih

/-- The columns of a query carry its aggregate functions. -/
theorem functions_columns {cs : List Column} {fields : List Identifier}
    (h : columns q = .ok (cs, fields)) : (Selection.columns cs).functions = q.functions := by
  unfold columns at h
  unfold Query.functions
  cases hagg : q.aggregation with
  | none =>
    rw [hagg] at h
    cases h
    rfl
  | some a =>
    rw [hagg] at h
    simp only [grouping, bind_eq_ok, pure_eq_ok, Prod.mk.injEq] at h
    obtain ⟨aggregates, haggregates, fields', -, rfl, rfl⟩ := h
    rw [functions_append, functions_fields, List.append_nil]
    exact functions_aggregates haggregates

/-! ## The finished statements -/

theorem defects_eq_nil_iff {main count sample : String} :
    defects main count sample = [] ↔
      (check main).defects = [] ∧ (check count).defects = [] ∧ (check sample).defects = [] := by
  simp [defects]

theorem warnings_eq_nil {main count sample : String} (hmain : (check main).warnings = [])
    (hcount : (check count).warnings = []) (hsample : (check sample).warnings = []) :
    warnings main count sample = [] := by
  simp [warnings, hmain, hcount, hsample]

theorem generate_eq_ok_iff {b : SqlBundle} : g.generate q d = .ok b ↔
    ∃ s, g.statements q d = .ok s ∧ ((check s.main.sql).defects = [] ∧
      (check s.count.sql).defects = [] ∧ (check s.sample.sql).defects = []) ∧
      b = ⟨s.main.sql, s.count.sql, s.sample.sql, d,
        warnings s.main.sql s.count.sql s.sample.sql⟩ := by
  unfold generate
  rw [bind_eq_ok]
  refine exists_congr fun s => and_congr_right fun _ => ?_
  rw [← defects_eq_nil_iff]
  simp only
  cases hdefects : defects s.main.sql s.count.sql s.sample.sql with
  | nil =>
    rw [pure_eq_ok, eq_comm]
    exact (and_iff_right rfl).symm
  | cons x xs =>
    constructor
    · intro h; cases h
    · rintro ⟨h, -⟩; cases h

/-- The pieces of the aggregate functions of a query, in order. -/
theorem functionPieces_columns {cs : List Column} {fields : List Identifier}
    (h : columns q = .ok (cs, fields)) : (Selection.columns cs).functionPieces =
      q.functions.flatMap fun function => pieces function.toList := by
  rw [Selection.functionPieces, functions_columns h]

/-- With aggregate functions that close their literals, only faults of the parts and unbalanced
functions stop the generation, and no warning is given. -/
theorem generate_eq_ok_iff_of_closed (hclosed : ∀ function ∈ q.functions, Closed function)
    {b : SqlBundle} : g.generate q d = .ok b ↔
    ∃ s, g.statements q d = .ok s ∧
      balanceOf 0 (q.functions.flatMap fun function => pieces function.toList) = .ended 0 false ∧
      b = ⟨s.main.sql, s.count.sql, s.sample.sql, d, []⟩ := by
  rw [generate_eq_ok_iff]
  refine exists_congr fun s => and_congr_right fun hs => ?_
  obtain ⟨source, cs, fields, filter, order, -, hcolumns, -, -, rfl⟩ := statements_eq_ok_iff.mp hs
  have hfunctions : ∀ function ∈ (Selection.columns cs).functions, Closed function := by
    rwa [functions_columns hcolumns]
  have hcount : ∀ function ∈ Selection.rowCount.functions, Closed function := by
    intro function h; cases h
  have hbalance : ∀ s : Statement, (∀ function ∈ s.selection.functions, Closed function) →
      ((check s.sql).defects = [] ↔ balanceOf 0 s.selection.functionPieces = .ended 0 false) := by
    intro s h
    rw [check_defects_eq_nil_iff, Statement.balance_sql h]
    refine ⟨fun ⟨inLiteral, heq⟩ => ?_, fun heq => ⟨false, heq⟩⟩
    cases inLiteral with
    | false => exact heq
    | true => exact absurd heq (balanceOf_ne_unclosed (Selection.functionPieces_closed h) 0 0)
  rw [hbalance _ hfunctions, hbalance _ hcount, hbalance _ hfunctions,
    functionPieces_columns hcolumns, warnings_eq_nil (check_warnings_eq_nil hfunctions)
      (check_warnings_eq_nil hcount) (check_warnings_eq_nil hfunctions)]
  constructor
  · rintro ⟨⟨hbal, -, -⟩, rfl⟩
    exact ⟨hbal, rfl⟩
  · rintro ⟨hbal, rfl⟩
    exact ⟨⟨hbal, rfl, hbal⟩, rfl⟩

end Generator

end Sql

end QueryDesk
