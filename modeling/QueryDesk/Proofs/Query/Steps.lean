import Mathlib.Data.List.Induction
import Mathlib.Data.List.Nodup
import QueryDesk.Query.Basic

/-!
# Aggregations made step by step

An aggregation is put together by adding grouping fields and aggregate columns one after the other.
The result is two ordered sets (`ofSteps_madeBy`): the fields in the order of their first use, and
the labels in the order of theirs, each with the function that it was given last.  A step keeps this
(`MadeBy.step`), whichever of the two lists it is about.
-/

namespace QueryDesk

/-! ## Ordered sets -/

section OrderedSets

variable {α : Type} [BEq α] [LawfulBEq α]

/-- A repeated element adds nothing to those before it. -/
theorem eraseDups_concat_of_mem {xs : List α} {x : α} (h : x ∈ xs) :
    (xs ++ [x]).eraseDups = xs.eraseDups := by
  simp [List.eraseDups_append, List.removeAll, h]

theorem eraseDups_concat_of_not_mem {xs : List α} {x : α} (h : x ∉ xs) :
    (xs ++ [x]).eraseDups = xs.eraseDups ++ [x] := by
  simp [List.eraseDups_append, List.removeAll, h, List.eraseDups_cons]

theorem nodup_eraseDups (xs : List α) : xs.eraseDups.Nodup := by
  induction xs using List.reverseRecOn with
  | nil => exact List.nodup_nil
  | append_singleton xs x ih =>
    by_cases h : x ∈ xs
    · rwa [eraseDups_concat_of_mem h]
    · rw [eraseDups_concat_of_not_mem h, ← List.concat_eq_append]
      exact ih.concat (mt List.mem_eraseDups.mp h)

end OrderedSets

namespace Aggregation

/-! ## Aggregates by label -/

/-- An aggregate with a label that is there already leaves the labels as they are. -/
theorem labels_putAggregate_of_mem {x : Aggregate} {xs : List Aggregate}
    (h : x.label ∈ xs.map (·.label)) : (putAggregate x xs).map (·.label) = xs.map (·.label) := by
  induction xs with
  | nil => cases h
  | cons y xs ih =>
    rw [putAggregate]
    split
    · next heq => rw [List.map_cons, List.map_cons, heq]
    · next hne =>
      have hrest := (List.mem_cons.mp h).resolve_left (Ne.symm hne)
      rw [List.map_cons, List.map_cons, ih hrest]

theorem putAggregate_of_not_mem {x : Aggregate} {xs : List Aggregate}
    (h : x.label ∉ xs.map (·.label)) : putAggregate x xs = xs ++ [x] := by
  induction xs with
  | nil => rfl
  | cons y xs ih =>
    rw [List.map_cons, List.mem_cons, not_or] at h
    rw [putAggregate, if_neg (Ne.symm h.1), ih h.2]
    rfl

/-- An aggregate replaces the one with its label, so labels stay apart. -/
theorem nodup_putAggregate (x : Aggregate) {xs : List Aggregate} (h : (xs.map (·.label)).Nodup) :
    ((putAggregate x xs).map (·.label)).Nodup := by
  by_cases hthere : x.label ∈ xs.map (·.label)
  · rwa [labels_putAggregate_of_mem hthere]
  · rw [putAggregate_of_not_mem hthere, List.map_append, List.map_singleton,
      ← List.concat_eq_append]
    exact h.concat hthere

theorem mem_putAggregate_self (x : Aggregate) (xs : List Aggregate) : x ∈ putAggregate x xs := by
  induction xs with
  | nil => exact List.mem_cons_self
  | cons y xs ih =>
    rw [putAggregate]
    split
    · exact List.mem_cons_self
    · exact List.mem_cons_of_mem y ih

/-- Of aggregates with different labels the others stay as they are. -/
theorem eq_or_ne_of_mem_putAggregate {x y : Aggregate} {xs : List Aggregate}
    (hxs : (xs.map (·.label)).Nodup) (h : y ∈ putAggregate x xs) :
    y = x ∨ y ∈ xs ∧ y.label ≠ x.label := by
  induction xs with
  | nil => exact Or.inl (List.mem_singleton.mp h)
  | cons z xs ih =>
    obtain ⟨hz, hxs⟩ : z.label ∉ xs.map (·.label) ∧ (xs.map (·.label)).Nodup :=
      List.nodup_cons.mp hxs
    rw [putAggregate] at h
    split at h
    · next heq =>
      rcases List.mem_cons.mp h with rfl | h
      · exact Or.inl rfl
      · refine Or.inr ⟨List.mem_cons_of_mem z h, fun hlabel => hz ?_⟩
        rw [heq, ← hlabel]
        exact List.mem_map_of_mem h
    · next hne =>
      rcases List.mem_cons.mp h with rfl | h
      · exact Or.inr ⟨List.mem_cons_self, hne⟩
      · exact (ih hxs h).imp_right fun h => ⟨List.mem_cons_of_mem z h.1, h.2⟩

/-! ## Steps -/

/-- One step of putting an aggregation together. -/
inductive Step where
  | groupBy (field : String)
  | aggregate (x : Aggregate)

def after (a : Aggregation) : Step → Aggregation
  | .groupBy field => a.withGroupBy field
  | .aggregate x => a.withAggregate x.label x.function

/-- The aggregation that the steps make, starting from nothing. -/
def ofSteps (steps : List Step) : Aggregation := steps.foldl after empty

def Step.field? : Step → Option String
  | groupBy field => some field
  | aggregate _ => none

def Step.aggregate? : Step → Option Aggregate
  | groupBy _ => none
  | aggregate x => some x

/-- The fields that the steps add. -/
def fieldsOf (steps : List Step) : List String := steps.filterMap Step.field?

/-- The aggregates that the steps add. -/
def aggregatesOf (steps : List Step) : List Aggregate := steps.filterMap Step.aggregate?

theorem fieldsOf_concat (steps : List Step) (s : Step) :
    fieldsOf (steps ++ [s]) = fieldsOf steps ++ s.field?.toList := by
  cases s <;> simp [fieldsOf, Step.field?]

theorem aggregatesOf_concat (steps : List Step) (s : Step) :
    aggregatesOf (steps ++ [s]) = aggregatesOf steps ++ s.aggregate?.toList := by
  cases s <;> simp [aggregatesOf, Step.aggregate?]

/-- What an aggregation made by steps is like. -/
structure MadeBy (a : Aggregation) (steps : List Step) : Prop where
  /-- The fields of the steps without later repeats. -/
  groupBy : a.groupBy = (fieldsOf steps).eraseDups
  /-- The labels of the steps without later repeats. -/
  labels : a.aggregates.map (·.label) = ((aggregatesOf steps).map (·.label)).eraseDups
  /-- Each aggregate is the last one given for its label. -/
  latest : ∀ x ∈ a.aggregates,
    ((aggregatesOf steps).filter (·.label = x.label)).getLast? = some x
  isEmpty_iff : a.isEmpty = true ↔ steps = []

namespace MadeBy

variable {steps : List Step} {a : Aggregation}

theorem nodup_labels (h : a.MadeBy steps) : (a.aggregates.map (·.label)).Nodup := by
  rw [h.labels]
  exact nodup_eraseDups _

theorem nodup_groupBy (h : a.MadeBy steps) : a.groupBy.Nodup := by
  rw [h.groupBy]
  exact nodup_eraseDups _

theorem withGroupBy (h : a.MadeBy steps) (field : String) :
    (a.withGroupBy field).MadeBy (steps ++ [Step.groupBy field]) := by
  have haggregates : (a.withGroupBy field).aggregates = a.aggregates := by
    rw [Aggregation.withGroupBy]
    split <;> rfl
  have hgiven : aggregatesOf (steps ++ [Step.groupBy field]) = aggregatesOf steps :=
    (aggregatesOf_concat steps _).trans (List.append_nil _)
  have hfields : fieldsOf (steps ++ [Step.groupBy field]) = fieldsOf steps ++ [field] :=
    fieldsOf_concat steps _
  have hmem : field ∈ a.groupBy ↔ field ∈ fieldsOf steps := by
    rw [h.groupBy, List.mem_eraseDups]
  have hgroupBy : (a.withGroupBy field).groupBy = (fieldsOf steps ++ [field]).eraseDups := by
    rw [Aggregation.withGroupBy]
    split
    · next hthere => rw [eraseDups_concat_of_mem (hmem.mp hthere), h.groupBy]
    · next hnew => rw [eraseDups_concat_of_not_mem (mt hmem.mpr hnew), h.groupBy]
  refine ⟨hgroupBy.trans (congrArg List.eraseDups hfields.symm), ?_, ?_, ?_⟩
  · rw [haggregates, hgiven]
    exact h.labels
  · rw [haggregates, hgiven]
    exact h.latest
  · have hthere : field ∈ (a.withGroupBy field).groupBy := by
      rw [hgroupBy, List.mem_eraseDups]
      exact List.mem_append_right _ List.mem_cons_self
    have hsome : (a.withGroupBy field).isEmpty = false := by
      rw [isEmpty, List.isEmpty_eq_false_iff.mpr (List.ne_nil_of_mem hthere), Bool.false_and]
    simp [hsome]

theorem withAggregate (h : a.MadeBy steps) (x : Aggregate) :
    (a.withAggregate x.label x.function).MadeBy (steps ++ [Step.aggregate x]) := by
  have haggregates : (a.withAggregate x.label x.function).aggregates =
      putAggregate x a.aggregates := rfl
  have hfields : fieldsOf (steps ++ [Step.aggregate x]) = fieldsOf steps :=
    (fieldsOf_concat steps _).trans (List.append_nil _)
  have hgiven : aggregatesOf (steps ++ [Step.aggregate x]) = aggregatesOf steps ++ [x] :=
    aggregatesOf_concat steps _
  have hmem : x.label ∈ a.aggregates.map (·.label) ↔
      x.label ∈ (aggregatesOf steps).map (·.label) := by
    rw [h.labels, List.mem_eraseDups]
  refine ⟨h.groupBy.trans (congrArg List.eraseDups hfields.symm), ?_, ?_, ?_⟩
  · rw [haggregates, hgiven, List.map_append, List.map_singleton]
    by_cases hthere : x.label ∈ a.aggregates.map (·.label)
    · rw [labels_putAggregate_of_mem hthere, eraseDups_concat_of_mem (hmem.mp hthere), h.labels]
    · rw [putAggregate_of_not_mem hthere, eraseDups_concat_of_not_mem (mt hmem.mpr hthere),
        ← h.labels, List.map_append]
      rfl
  · intro y hy
    rw [hgiven, List.filter_append]
    rcases eq_or_ne_of_mem_putAggregate h.nodup_labels hy with rfl | ⟨hy, hne⟩
    · simp
    · simpa [Ne.symm hne] using h.latest y hy
  · have hthere : x ∈ putAggregate x a.aggregates := mem_putAggregate_self x a.aggregates
    have hsome : (a.withAggregate x.label x.function).isEmpty = false := by
      rw [isEmpty, haggregates, List.isEmpty_eq_false_iff.mpr (List.ne_nil_of_mem hthere),
        Bool.and_false]
    simp [hsome]

/-- Every step keeps to what an aggregation is like. -/
theorem step (h : a.MadeBy steps) (s : Step) : (a.after s).MadeBy (steps ++ [s]) := by
  cases s with
  | groupBy field => exact h.withGroupBy field
  | aggregate x => exact h.withAggregate x

theorem foldl (h : a.MadeBy steps) (more : List Step) :
    (more.foldl after a).MadeBy (steps ++ more) := by
  induction more generalizing steps a with
  | nil => rwa [List.append_nil]
  | cons s more ih =>
    have hrest := ih (h.step s)
    rwa [List.append_assoc] at hrest

end MadeBy

theorem madeBy_nil : MadeBy empty [] where
  groupBy := rfl
  labels := rfl
  latest _ h := absurd h List.not_mem_nil
  isEmpty_iff := iff_of_true rfl rfl

theorem ofSteps_madeBy (steps : List Step) : (ofSteps steps).MadeBy steps :=
  madeBy_nil.foldl steps

end Aggregation

end QueryDesk
