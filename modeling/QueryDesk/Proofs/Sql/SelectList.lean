import QueryDesk.Proofs.Query.Steps
import QueryDesk.Proofs.Sql.Endings
import QueryDesk.Proofs.Sql.Generation
import QueryDesk.Proofs.Sql.Predicates

/-!
# The columns of a statement

What stands between SELECT and FROM.  The main and the sample statement of a query list the
aggregates in order and then the grouping fields that are not labels (`columns_listed`).  With an
aggregation that was made step by step the columns have different names, every column that is not an
aggregate is grouped by, and all columns of the table are asked for exactly if there is nothing to
group or aggregate (`steps_selected`).
-/

namespace QueryDesk

/-- The grouping fields that are shown under their own names: those that are not labels. -/
def Aggregation.shownFields (a : Aggregation) : List String :=
  a.groupBy.filter fun field => !a.aggregates.any (·.label == field)

namespace Sql

/-! ## Columns -/

/-- The names under which a selection shows its columns, where it names them. -/
def Selection.outputNames : Selection → List String
  | .columns cs => cs.map Column.outputName
  | .rowCount => ["total_count"]

/-- The name of a column is the last that is written of it. -/
theorem Column.endsIn (c : Column) : EndsIn (isWordChar · = true) c.sql := by
  cases c with
  | aggregate function label => exact label.endsIn.append_left _
  | field name => exact name.endsIn

/-- A star stands for the columns of the table, and for nothing else. -/
theorem Selection.sql_eq_star_iff {cs : List Column} :
    (Selection.columns cs).sql = "*" ↔ cs = [] := by
  refine ⟨fun h => ?_, fun h => h ▸ rfl⟩
  by_contra hne
  have hends : EndsIn (isWordChar · = true) (", ".intercalate (cs.map Column.sql)) := by
    refine .intercalate _ (mt List.map_eq_nil_iff.mp hne) ?_
    rw [List.forall_mem_map]
    exact fun c _ => c.endsIn
  obtain ⟨c, rest, rfl⟩ := List.exists_cons_of_ne_nil hne
  have hstar : ", ".intercalate ((c :: rest).map Column.sql) = "*" := h
  rw [hstar] at hends
  obtain ⟨d, hlast, hword⟩ := hends
  obtain rfl : '*' = d := Option.some.inj hlast
  cases hword

/-- What a statement lists for an aggregation, and what it is grouped by. -/
structure Lists (a : Aggregation) (cs : List Column) (fields : List Identifier) : Prop where
  /-- The aggregates in order, then the grouping fields that are not labels. -/
  items : cs.map Column.sql =
    (a.aggregates.map fun x => x.function ++ " as " ++ x.label) ++ a.shownFields
  names : cs.map Column.outputName = a.aggregates.map (·.label) ++ a.shownFields
  /-- Every column that is not an aggregate is grouped by. -/
  grouped : ∀ field, Column.field field ∈ cs → field ∈ fields
  groupBy : fields.map Identifier.name = a.groupBy

theorem Lists.eq_nil_iff {a : Aggregation} {cs : List Column} {fields : List Identifier}
    (h : Lists a cs fields) : cs = [] ↔ a.isEmpty = true := by
  have hshown : a.aggregates = [] → (a.shownFields = [] ↔ a.groupBy = []) := by
    intro hnone
    rw [Aggregation.shownFields, hnone]
    simp
  have hempty : a.isEmpty = true ↔ a.aggregates = [] ∧ a.groupBy = [] := by
    rw [Aggregation.isEmpty, Bool.and_eq_true, List.isEmpty_iff, List.isEmpty_iff, and_comm]
  have hnames : cs = [] ↔ a.aggregates.map (·.label) ++ a.shownFields = [] := by
    rw [← h.names, List.map_eq_nil_iff]
  rw [hnames, hempty, List.append_eq_nil_iff, List.map_eq_nil_iff, and_congr_right hshown]

/-- Labels that differ and fields that differ are different names, since fields that are labels are
left out. -/
theorem Lists.nodup_names {a : Aggregation} {cs : List Column} {fields : List Identifier}
    (h : Lists a cs fields) (hlabels : (a.aggregates.map (·.label)).Nodup)
    (hgroupBy : a.groupBy.Nodup) : (cs.map Column.outputName).Nodup := by
  rw [h.names]
  refine List.nodup_append.mpr ⟨hlabels, hgroupBy.filter _, fun label hlabel field hfield => ?_⟩
  rintro rfl
  obtain ⟨x, hx, hname⟩ := List.mem_map.mp hlabel
  have hother := (List.mem_filter.mp hfield).2
  rw [Bool.not_eq_true', List.any_eq_false] at hother
  exact hother x hx (beq_iff_eq.mpr hname)

namespace Generator

theorem aggregate_column_iff {x : Aggregate} {c : Column} :
    (do return Column.aggregate x.function (← identifier .label x.label) :
      Except SqlFault Column) = .ok c ↔
    ∃ label, identifier .label x.label = .ok label ∧ .aggregate x.function label = c := by
  simp only [bind_eq_ok, pure_eq_ok]

theorem names_of_identifiers {role : Role} {names : List String} {is : List Identifier}
    (h : names.mapM (identifier role) = .ok is) : is.map Identifier.name = names := by
  have hnames := mapM_eq_ok.mp h
  clear h
  induction hnames with
  | nil => rfl
  | cons hname _ ih => rw [List.map_cons, ih, identifier_name hname]

/-- The aggregates of a query are written under their labels, and none is a field. -/
theorem aggregates_listed {xs : List Aggregate} {cs : List Column}
    (h : (xs.mapM fun x => do return Column.aggregate x.function (← identifier .label x.label)) =
      .ok cs) :
    cs.map Column.sql = (xs.map fun x => x.function ++ " as " ++ x.label) ∧
      cs.map Column.outputName = xs.map (·.label) ∧ ∀ field, Column.field field ∉ cs := by
  have hcolumns := mapM_eq_ok.mp h
  clear h
  induction hcolumns with
  | nil => exact ⟨rfl, rfl, fun _ h => absurd h List.not_mem_nil⟩
  | @cons x c xs cs hx _ ih =>
    obtain ⟨label, hlabel, rfl⟩ := aggregate_column_iff.mp hx
    obtain ⟨hsql, hnames, hfield⟩ := ih
    refine ⟨?_, ?_, fun field hmem => ?_⟩
    · rw [List.map_cons, List.map_cons, hsql, Column.sql, identifier_name hlabel]
    · rw [List.map_cons, List.map_cons, hnames, Column.outputName, identifier_name hlabel]
    · rcases List.mem_cons.mp hmem with heq | hmem
      · cases heq
      · exact hfield field hmem

theorem grouping_listed {a : Aggregation} {cs : List Column} {fields : List Identifier}
    (h : grouping a = .ok (cs, fields)) : Lists a cs fields := by
  simp only [grouping, bind_eq_ok, pure_eq_ok, Prod.mk.injEq] at h
  obtain ⟨aggregates, haggregates, fields, hfields, rfl, rfl⟩ := h
  obtain ⟨hsql, hnames, hfield⟩ := aggregates_listed haggregates
  have hgroupBy := names_of_identifiers hfields
  have hshown : (fields.filter fun f => !a.aggregates.any (·.label == f.name)).map
      Identifier.name = a.shownFields := by
    rw [Aggregation.shownFields, ← hgroupBy, List.filter_map]
    rfl
  refine ⟨?_, ?_, fun field hmem => ?_, hgroupBy⟩
  · rw [List.map_append, hsql, List.map_map, ← hshown]
    rfl
  · rw [List.map_append, hnames, List.map_map, ← hshown]
    rfl
  · rcases List.mem_append.mp hmem with hmem | hmem
    · exact absurd hmem (hfield field)
    · obtain ⟨f, hf, heq⟩ := List.mem_map.mp hmem
      cases heq
      exact List.mem_of_mem_filter hf

/-- A query without an aggregation lists what one with an empty aggregation does. -/
theorem columns_listed {q : Query} {cs : List Column} {fields : List Identifier}
    (h : columns q = .ok (cs, fields)) : Lists (q.aggregation.getD .empty) cs fields := by
  unfold columns at h
  cases ha : q.aggregation with
  | none =>
    rw [ha] at h
    cases h
    exact ⟨rfl, rfl, fun _ h => absurd h List.not_mem_nil, rfl⟩
  | some a =>
    rw [ha] at h
    exact grouping_listed h

/-! ## Aggregations made step by step -/

/-- The SELECT list of a statement about an aggregation, with the empty one for none. -/
structure SelectsFor (a : Aggregation) (s : Statement) (cs : List Column) : Prop where
  selection : s.selection = .columns cs
  listed : Lists a cs s.groupBy
  names_nodup : s.selection.outputNames.Nodup
  star_iff : s.selection.sql = "*" ↔ a.isEmpty = true

theorem selectsFor_of_listed {a : Aggregation} {s : Statement} {cs : List Column}
    {steps : List Aggregation.Step} (ha : a.MadeBy steps) (hs : s.selection = .columns cs)
    (h : Lists a cs s.groupBy) : SelectsFor a s cs where
  selection := hs
  listed := h
  names_nodup := by
    rw [hs]
    exact h.nodup_names ha.nodup_labels ha.nodup_groupBy
  star_iff := by rw [hs, Selection.sql_eq_star_iff, h.eq_nil_iff]

/-- An aggregation that is made by steps is a pair of ordered sets.  The main and the sample
statement of a query with such an aggregation, or with none, list its columns. -/
theorem steps_selected (steps : List Aggregation.Step) :
    (Aggregation.ofSteps steps).MadeBy steps ∧
      ∀ (g : Generator) (q : Query) (d : Dialect) (b : SqlBundle),
        q.aggregation = none ∨ q.aggregation = some (.ofSteps steps) → g.generate q d = .ok b →
        ∃ s cs, g.statements q d = .ok s ∧ b.sql = s.main.sql ∧ b.sampleSql = s.sample.sql ∧
          SelectsFor (q.aggregation.getD .empty) s.main cs ∧
          SelectsFor (q.aggregation.getD .empty) s.sample cs := by
  refine ⟨Aggregation.ofSteps_madeBy steps, fun g q d b haggregation hb => ?_⟩
  obtain ⟨made, hmade⟩ : ∃ made, (q.aggregation.getD .empty).MadeBy made := by
    rcases haggregation with ha | ha
    · exact ⟨[], ha ▸ Aggregation.madeBy_nil⟩
    · exact ⟨steps, ha ▸ Aggregation.ofSteps_madeBy steps⟩
  obtain ⟨s, hs, -, rfl⟩ := generate_eq_ok_iff.mp hb
  obtain ⟨source, cs, fields, filter, order, -, hcolumns, -, -, hparts⟩ :=
    statements_eq_ok_iff.mp hs
  have hlisted := columns_listed hcolumns
  subst hparts
  exact ⟨_, cs, hs, rfl, rfl, selectsFor_of_listed hmade rfl hlisted,
    selectsFor_of_listed hmade rfl hlisted⟩

/-- A field is added twice, a label is given two functions, and it is the name of a field too. -/
def collidingSteps : List Aggregation.Step :=
  [.groupBy "city", .aggregate ⟨"total", "COUNT(*)"⟩, .groupBy "total", .groupBy "city",
    .aggregate ⟨"total", "SUM(amount)"⟩]

def collidingQuery : Query :=
  .ofTable "visits" [] (some (.ofSteps collidingSteps)) none

theorem steps_selected_colliding : ∃ b,
    (Generator.mk 5 Date.first).generate collidingQuery .presto = .ok b ∧
      ∃ s cs, (Generator.mk 5 Date.first).statements collidingQuery .presto = .ok s ∧
        b.sql = s.main.sql ∧ b.sampleSql = s.sample.sql ∧
        SelectsFor (collidingQuery.aggregation.getD .empty) s.main cs ∧
        SelectsFor (collidingQuery.aggregation.getD .empty) s.sample cs := by
  obtain ⟨b, hb⟩ := isOk_iff_exists.mp (show ((Generator.mk 5 Date.first).generate
    collidingQuery .presto).isOk = true by decide +kernel)
  exact ⟨b, hb, (steps_selected collidingSteps).2 _ _ _ b (Or.inr rfl) hb⟩

example : Aggregation.ofSteps collidingSteps =
    ⟨["city", "total"], [⟨"total", "SUM(amount)"⟩]⟩ := by decide

end Generator

end Sql

end QueryDesk
