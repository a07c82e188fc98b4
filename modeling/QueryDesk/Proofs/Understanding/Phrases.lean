import QueryDesk.Proofs.Sql.Generation
import QueryDesk.Proofs.Sql.Predicates
import QueryDesk.Understanding.Rules

/-!
# What the phrase rules produce

Whatever the text says, conditions, groupings and aggregates come out of the tables of the
vocabulary (`mem_conditions`, `tabled_aggregation`), and the rows of the tables are fit for SQL:
plain identifiers, values with a text, functions without quotes whose parentheses balance.  So the
conditions become predicates (`exists_atom`) and the aggregation becomes columns
(`exists_grouping`) for every text.
-/

namespace QueryDesk.Rules

open Vocabulary Sql

/-! ## Rows of the tables -/

/-- A condition that the text implies is a row of the table, as an equality. -/
theorem mem_conditions {lowered : String} : ∀ c ∈ conditions lowered,
    ∃ row ∈ conditionRules, c = ⟨row.2.1, .eq, .single row.2.2, .and⟩ := by
  refine List.foldlRecOn (motive := fun (found : List Condition) => ∀ c ∈ found,
    ∃ row ∈ conditionRules, c = ⟨row.2.1, .eq, .single row.2.2, .and⟩) conditionRules _
      (fun _ h => absurd h List.not_mem_nil) ?_
  intro found hfound row hrow c hc
  dsimp only at hc
  split at hc
  · exact hfound c hc
  · rcases List.mem_append.mp hc with hc | hc
    · exact hfound c hc
    · exact ⟨row, hrow, List.mem_singleton.mp hc⟩

theorem mem_putAggregate {x y : Aggregate} {xs : List Aggregate}
    (h : y ∈ Aggregation.putAggregate x xs) : y = x ∨ y ∈ xs := by
  induction xs with
  | nil => exact Or.inl (List.mem_singleton.mp h)
  | cons z xs ih =>
    unfold Aggregation.putAggregate at h
    split at h
    · rcases List.mem_cons.mp h with h | h
      · exact Or.inl h
      · exact Or.inr (List.mem_cons_of_mem _ h)
    · rcases List.mem_cons.mp h with h | h
      · exact Or.inr (List.mem_cons.mpr (Or.inl h))
      · exact (ih h).imp_right (List.mem_cons_of_mem _)

/-- An aggregation whose fields and aggregates stand in the tables. -/
structure Tabled (a : Aggregation) : Prop where
  fields : ∀ field ∈ a.groupBy, ∃ row ∈ groupFields, field = row.2
  aggregates : ∀ x ∈ a.aggregates, ∃ row ∈ aggregateFunctions, x = row.2

theorem Tabled.empty : Tabled .empty := ⟨fun _ h => (nomatch h), fun _ h => (nomatch h)⟩

/-- What the text asks for stands in the tables. -/
theorem tabled_aggregation {lowered : String} {a : Aggregation}
    (h : aggregation? lowered = some a) : Tabled a := by
  unfold aggregation? at h
  split at h
  · obtain ⟨-, h⟩ := Option.ite_none_left_eq_some.mp h
    rw [← Option.some.inj h]
    refine List.foldlRecOn (motive := Tabled) aggregateFunctions _ ?_ ?_
    · split
      · next field hfind =>
        refine ⟨fun f hf => ?_, fun _ h => (nomatch h)⟩
        rw [List.mem_singleton.mp (show f ∈ [field] from hf)]
        exact ⟨_, List.mem_of_find?_eq_some hfind, rfl⟩
      · exact Tabled.empty
    · intro spec hspec row hrow
      dsimp only
      split
      · refine ⟨hspec.fields, fun x hx => ?_⟩
        rcases mem_putAggregate hx with rfl | hx
        · exact ⟨row, hrow, rfl⟩
        · exact hspec.aggregates x hx
      · exact hspec
  · cases h

/-! ## The rows are fit for SQL -/

theorem conditionRules_plain : ∀ row ∈ conditionRules, isIdentifier row.2.1 = true := by decide

theorem conditionRules_finite : ∀ row ∈ conditionRules, row.2.2.Finite := by
  simp [conditionRules, Literal.Finite]

theorem groupFields_plain : ∀ row ∈ groupFields, isIdentifier row.2 = true := by decide

theorem aggregateFunctions_plain : ∀ row ∈ aggregateFunctions, isIdentifier row.2.label = true := by
  decide

theorem aggregateFunctions_noQuote :
    ∀ row ∈ aggregateFunctions, '\'' ∉ row.2.function.toList := by decide

theorem aggregateFunctions_neutral :
    ∀ row ∈ aggregateFunctions, Neutral (codes row.2.function) := by
  simp only [aggregateFunctions, List.mem_cons, List.not_mem_nil, or_false]
  rintro row (rfl | rfl | rfl | rfl | rfl) <;> exact fun _ _ => rfl

/-! ## Conditions and aggregations of a text -/

/-- Every condition that a text implies becomes a predicate. -/
theorem exists_atom {lowered : String} {c : Condition} (h : c ∈ conditions lowered) :
    ∃ a, atom c = .ok a := by
  obtain ⟨row, hrow, rfl⟩ := mem_conditions c h
  refine ⟨_, atom_eq_ok_iff.mpr ⟨_, identifier_of_plain (conditionRules_plain row hrow), ?_,
    .compare (o := .eq) ⟨Operator.noConfusion, Operator.noConfusion⟩ row.2.2⟩⟩
  exact List.forall_mem_singleton.mpr (conditionRules_finite row hrow)

namespace Tabled

variable {a : Aggregation} (h : Tabled a)

include h

theorem label_plain {x : Aggregate} (hx : x ∈ a.aggregates) : isIdentifier x.label = true := by
  obtain ⟨row, hrow, rfl⟩ := h.aggregates x hx
  exact aggregateFunctions_plain row hrow

theorem noQuote {x : Aggregate} (hx : x ∈ a.aggregates) : '\'' ∉ x.function.toList := by
  obtain ⟨row, hrow, rfl⟩ := h.aggregates x hx
  exact aggregateFunctions_noQuote row hrow

theorem neutral {x : Aggregate} (hx : x ∈ a.aggregates) : Neutral (codes x.function) := by
  obtain ⟨row, hrow, rfl⟩ := h.aggregates x hx
  exact aggregateFunctions_neutral row hrow

/-- An aggregation out of the tables becomes columns. -/
theorem exists_grouping : ∃ columns, Generator.grouping a = .ok columns := by
  have haggregates : ∃ cs, (a.aggregates.mapM fun x => do
      return Column.aggregate x.function (← identifier .label x.label)) = .ok cs := by
    refine exists_mapM_eq_ok fun x hx => ?_
    exact ⟨_, bind_eq_ok.mpr ⟨_, identifier_of_plain (h.label_plain hx), rfl⟩⟩
  have hfields : ∃ fields, a.groupBy.mapM (identifier .groupByField) = .ok fields := by
    refine exists_mapM_eq_ok fun field hfield => ?_
    obtain ⟨row, hrow, rfl⟩ := h.fields field hfield
    exact ⟨_, identifier_of_plain (groupFields_plain row hrow)⟩
  obtain ⟨cs, hcs⟩ := haggregates
  obtain ⟨fields, hfields⟩ := hfields
  exact ⟨_, bind_eq_ok.mpr ⟨cs, hcs, bind_eq_ok.mpr ⟨fields, hfields, rfl⟩⟩⟩

end Tabled

end QueryDesk.Rules
