import Mathlib.Logic.Relation
import Mathlib.Tactic.Linarith
import Mathlib.Tactic.NormNum
import Mathlib.Tactic.Positivity
import QueryDesk.Proofs.Sql.Generation
import QueryDesk.Task.Cost

/-!
# Costs are bounded and grow with the query

The formulas of the cost estimate at the rationals, where nothing is rounded.  A query that is
extended keeps the factors it had and may gain some (`factors_sublist`, and over any number of
extensions `factors_sublist_of_extended`); no factor is below one, so the product never falls
(`prod_le_prod`).  Clamping and capping are minima and maxima, and the rest follows from their laws.

Numbers that know of no quotient by zero (`Partial`) show that the resource factor divides by
positive capacities only (`resourceFactor_defined`).
-/

namespace QueryDesk

/-! ## Extensions -/

/-- One way in which a query can be made to ask for more. -/
inductive Query.Extension (q : Query) : Query → Prop
  | conditions (more : List Condition) :
      Extension q { q with conditions := q.conditions ++ more }
  | aggregation (h : q.aggregation = none) (a : Aggregation) :
      Extension q { q with aggregation := some a }
  | groupBy {a b : Aggregation} (h : q.aggregation = some a) (hfields : a.groupBy.Sublist b.groupBy)
      (haggregates : b.aggregates = a.aggregates) : Extension q { q with aggregation := some b }
  | window {days more : UInt32} (h : q.window = some (.relative days)) (hmore : days ≤ more) :
      Extension q { q with window := some (.relative more) }
  | intent (h : q.intent.intent.isAnalytical = false) (found : IntentResult)
      (hfound : found.intent.isAnalytical = true) : Extension q { q with intent := found }

/-- Extensions in any number and order. -/
def Query.Extended : Query → Query → Prop := Relation.ReflTransGen Query.Extension

/-! ## Resources side by side -/

namespace Resources

variable {α β : Type}

/-- Fewer resources, each for itself. -/
instance [LE α] : LE (Resources α) :=
  ⟨fun r s => r.memory ≤ s.memory ∧ r.cores ≤ s.cores ∧ r.instances ≤ s.instances⟩

def map (f : α → β) (r : Resources α) : Resources β :=
  ⟨f r.memory, f r.cores, f r.instances⟩

end Resources

/-- Rationals with quotients by positive and negative numbers only. -/
def Partial : Type := Option ℚ

namespace Partial

def of (x : ℚ) : Partial := some x

instance : OfScientific Partial := ⟨fun m s e => of (OfScientific.ofScientific m s e)⟩

instance : Mul Partial := ⟨fun x y => x.bind fun a => y.map fun b => a * b⟩

instance : Div Partial :=
  ⟨fun x y => x.bind fun a => y.bind fun b => if b = 0 then none else some (a / b)⟩

/-- Whether one number is below another; an undefined number compares with none. -/
def isBelow : Option ℚ → Option ℚ → Bool
  | some a, some b => a < b
  | _, _ => false

instance : LT Partial := ⟨fun x y => isBelow x y = true⟩

instance : DecidableLT Partial := fun x y => inferInstanceAs (Decidable (isBelow x y = true))

theorem of_div {y : ℚ} (h : y ≠ 0) (x : ℚ) : of x / of y = of (x / y) := if_neg h

theorem of_lt_of {x y : ℚ} : of x < of y ↔ x < y := by
  show decide (x < y) = true ↔ x < y
  exact decide_eq_true_iff

end Partial

namespace Cost

/-! ## Clamping and capping -/

theorem clamp_eq {low high : ℚ} (h : low ≤ high) (x : ℚ) :
    clamp low high x = max low (min high x) := by
  unfold clamp
  split_ifs with hlow hhigh
  · rw [min_eq_right (hlow.le.trans h), max_eq_left hlow.le]
  · rw [min_eq_left hhigh.le, max_eq_right h]
  · rw [min_eq_right (not_lt.mp hhigh), max_eq_right (not_lt.mp hlow)]

theorem clamp_bounds {low high : ℚ} (h : low ≤ high) (x : ℚ) :
    low ≤ clamp low high x ∧ clamp low high x ≤ high := by
  rw [clamp_eq h]
  exact ⟨le_max_left _ _, max_le h (min_le_left _ _)⟩

theorem clamp_mono {low high x y : ℚ} (h : low ≤ high) (hxy : x ≤ y) :
    clamp low high x ≤ clamp low high y := by
  rw [clamp_eq h, clamp_eq h]
  exact max_le_max_left low (min_le_min_left high hxy)

theorem capped_eq (cap x : ℚ) : capped cap x = min cap x := by
  unfold capped
  split_ifs with h
  · exact (min_eq_right h.le).symm
  · exact (min_eq_left (not_lt.mp h)).symm

/-! ## Complexity -/

theorem ite_sublist {p p' : Prop} [Decidable p] [Decidable p'] (h : p → p') (xs : List ℚ) :
    (if p then xs else []).Sublist (if p' then xs else []) := by
  by_cases hp : p
  · rw [if_pos hp, if_pos (h hp)]
  · rw [if_neg hp]
    exact List.nil_sublist _

/-- An extension takes no factor away. -/
theorem factors_sublist {q q' : Query} (h : q.Extension q') :
    (factors q : List ℚ).Sublist (factors q') := by
  unfold factors
  cases h with
  | conditions more =>
    have hlonger : 3 < q.conditions.length → 3 < (q.conditions ++ more).length := by
      intro hlong
      rw [List.length_append]
      omega
    have hconditions := ite_sublist hlonger [1.5]
    exact ((hconditions.append (.refl _)).append (.refl _)).append (.refl _)
  | aggregation h a =>
    have haggregation : (aggregationFactors q : List ℚ).Sublist
        (aggregationFactors { q with aggregation := some a }) := by
      rw [aggregationFactors, h]
      exact List.nil_sublist _
    exact ((List.Sublist.append (.refl _) haggregation).append (.refl _)).append (.refl _)
  | @groupBy a b h hfields _ =>
    have haggregation : (aggregationFactors q : List ℚ).Sublist
        (aggregationFactors { q with aggregation := some b }) := by
      have hlength := hfields.length_le
      simp only [aggregationFactors, h]
      by_cases hmany : 2 < a.groupBy.length
      · rw [if_pos hmany, if_pos (show 2 < b.groupBy.length by omega)]
      · rw [if_neg hmany]
        split_ifs
        · exact List.sublist_append_left [2.0] [1.5]
        · exact .refl _
    exact ((List.Sublist.append (.refl _) haggregation).append (.refl _)).append (.refl _)
  | @window days more h hmore =>
    have hwindow : (windowFactors q : List ℚ).Sublist
        (windowFactors { q with window := some (.relative more) }) := by
      simp only [windowFactors, h]
      exact ite_sublist (fun hlong => UInt32.lt_of_lt_of_le hlong hmore) [1.2]
    exact (List.Sublist.append (.refl _) hwindow).append (.refl _)
  | intent h found hfound =>
    have hintent : (intentFactors q : List ℚ).Sublist
        (intentFactors { q with intent := found }) := by
      rw [intentFactors, h]
      exact List.nil_sublist _
    exact List.Sublist.append (.refl _) hintent

theorem factors_sublist_of_extended {q q' : Query} (h : q.Extended q') :
    (factors q : List ℚ).Sublist (factors q') := by
  induction h with
  | refl => exact .refl _
  | tail _ hstep ih => exact ih.trans (factors_sublist hstep)

theorem one_le_factors (q : Query) : ∀ x ∈ (factors q : List ℚ), 1 ≤ x := by
  have hsingle : ∀ {p : Prop} [Decidable p] {y : ℚ}, 1 ≤ y →
      ∀ x ∈ (if p then [y] else []), 1 ≤ x := by
    intro p _ y hy x hx
    split_ifs at hx
    · exact List.mem_singleton.mp hx ▸ hy
    · exact absurd hx List.not_mem_nil
  intro x hx
  simp only [factors, List.mem_append] at hx
  rcases hx with ((hx | hx) | hx) | hx
  · exact hsingle (by norm_num) x hx
  · unfold aggregationFactors at hx
    split at hx
    · split_ifs at hx
      · simp only [List.mem_cons, List.not_mem_nil, or_false] at hx
        rcases hx with rfl | rfl <;> norm_num
      · rw [List.mem_singleton.mp hx]
        norm_num
    · exact absurd hx List.not_mem_nil
  · unfold windowFactors at hx
    split at hx
    · exact hsingle (by norm_num) x hx
    · exact absurd hx List.not_mem_nil
  · exact hsingle (by norm_num) x hx

theorem one_le_prod {xs : List ℚ} (h : ∀ x ∈ xs, 1 ≤ x) : 1 ≤ xs.prod := by
  induction xs with
  | nil => exact le_refl 1
  | cons x xs ih =>
    obtain ⟨hx, hxs⟩ := List.forall_mem_cons.mp h
    rw [List.prod_cons]
    exact one_le_mul_of_one_le_of_one_le hx (ih hxs)

/-- More factors, none below one, make no smaller product. -/
theorem prod_le_prod {xs ys : List ℚ} (h : xs.Sublist ys) (hys : ∀ y ∈ ys, 1 ≤ y) :
    xs.prod ≤ ys.prod := by
  induction h with
  | slnil => exact le_refl _
  | @cons xs ys y h ih =>
    obtain ⟨hy, hys⟩ := List.forall_mem_cons.mp hys
    have hpos := one_le_prod hys
    rw [List.prod_cons]
    exact (ih hys).trans (le_mul_of_one_le_left (by linarith) hy)
  | @cons_cons xs ys y h ih =>
    obtain ⟨hy, hys⟩ := List.forall_mem_cons.mp hys
    rw [List.prod_cons, List.prod_cons]
    exact mul_le_mul_of_nonneg_left (ih hys) (by linarith)

theorem complexity_eq (q : Query) :
    (complexity q : ℚ) = clamp 1 5 (factors q : List ℚ).prod := by
  rw [List.prod_eq_foldl, complexity]
  norm_num

theorem complexity_bounds (q : Query) : 1 ≤ (complexity q : ℚ) ∧ (complexity q : ℚ) ≤ 5 := by
  rw [complexity_eq]
  exact clamp_bounds (by norm_num) _

theorem complexity_mono {q q' : Query} (h : q.Extended q') :
    (complexity q : ℚ) ≤ complexity q' := by
  rw [complexity_eq, complexity_eq]
  refine clamp_mono (by norm_num) ?_
  exact prod_le_prod (factors_sublist_of_extended h) (one_le_factors q')

/-! ## Resources -/

theorem scaled_eq (x : ℚ) :
    scaled x = ⟨min 16 (2 * max 1 x), min 8 (max 1 x), min 4 (max 1 x)⟩ := by
  have hfactor : (if (1.0 : ℚ) < x then x else 1.0) = max 1 x := by
    norm_num
    split_ifs with h
    · exact (max_eq_right h.le).symm
    · exact (max_eq_left (not_lt.mp h)).symm
  simp only [scaled, hfactor, capped_eq, ceiling, base]
  norm_num

theorem base_eq : (base : Resources ℚ) = ⟨2, 1, 1⟩ := by
  unfold base
  norm_num

theorem ceiling_eq : (ceiling : Resources ℚ) = ⟨16, 8, 4⟩ := by
  unfold ceiling
  norm_num

theorem scaled_bounds (x : ℚ) : base ≤ scaled x ∧ scaled x ≤ ceiling := by
  have hone := le_max_left 1 x
  rw [scaled_eq, base_eq, ceiling_eq]
  refine ⟨⟨?_, ?_, ?_⟩, min_le_left _ _, min_le_left _ _, min_le_left _ _⟩
  · exact le_min (by norm_num) (by linarith)
  · exact le_min (by norm_num) hone
  · exact le_min (by norm_num) hone

theorem scaled_mono {x y : ℚ} (h : x ≤ y) : scaled x ≤ scaled y := by
  have hmax := max_le_max_left 1 h
  rw [scaled_eq, scaled_eq]
  refine ⟨min_le_min_left _ ?_, min_le_min_left _ hmax, min_le_min_left _ hmax⟩
  linarith

/-! ## The resource factor -/

theorem resourceFactor_eq (r : Resources ℚ) : resourceFactor r =
    if 0 < r.cores * r.memory then clamp (1 / 4) 2 (4 / (r.cores * r.memory)) else 2 := by
  unfold resourceFactor
  norm_num

theorem resourceFactor_bounds (r : Resources ℚ) :
    1 / 4 ≤ resourceFactor r ∧ resourceFactor r ≤ 2 := by
  rw [resourceFactor_eq]
  split_ifs
  · exact clamp_bounds (by norm_num) _
  · norm_num

/-- Cores and memory that are positive do not raise the factor when there are more of them. -/
theorem resourceFactor_anti {r s : Resources ℚ} (hcores : 0 < r.cores) (hmemory : 0 < r.memory)
    (hcores' : r.cores ≤ s.cores) (hmemory' : r.memory ≤ s.memory) :
    resourceFactor s ≤ resourceFactor r := by
  have hr : 0 < r.cores * r.memory := mul_pos hcores hmemory
  have hle : r.cores * r.memory ≤ s.cores * s.memory :=
    mul_le_mul hcores' hmemory' hmemory.le (hcores.le.trans hcores')
  rw [resourceFactor_eq, resourceFactor_eq, if_pos hr, if_pos (hr.trans_le hle)]
  exact clamp_mono (by norm_num) (div_le_div_of_nonneg_left (by norm_num) hr hle)

theorem clamp_of (low high x : ℚ) :
    clamp (Partial.of low) (Partial.of high) (Partial.of x) = Partial.of (clamp low high x) := by
  unfold clamp
  simp only [Partial.of_lt_of]
  split_ifs <;> rfl

/-- The factor of resources is defined whatever they are: no capacity divided by is zero. -/
theorem resourceFactor_defined (r : Resources ℚ) :
    resourceFactor (r.map Partial.of) = Partial.of (resourceFactor r) := by
  have hcapacity : (r.map Partial.of).cores * (r.map Partial.of).memory =
      Partial.of (r.cores * r.memory) := rfl
  have hzero : (0.0 : Partial) = Partial.of 0.0 := rfl
  unfold resourceFactor
  simp only [hcapacity, hzero, Partial.of_lt_of]
  by_cases h : (0.0 : ℚ) < r.cores * r.memory
  · have hne : r.cores * r.memory ≠ 0 := by
      norm_num at h
      exact h.ne'
    have hquotient : (4.0 : Partial) / Partial.of (r.cores * r.memory) =
        Partial.of (4.0 / (r.cores * r.memory)) := Partial.of_div hne 4.0
    rw [if_pos h, if_pos h, hquotient]
    exact clamp_of 0.25 2.0 _
  · rw [if_neg h, if_neg h]
    rfl

/-! ## All together -/

/-- Complexity and resources keep to their bounds and never fall when a query is extended; the
resource factor is always defined, keeps to its bounds and never rises with the capacity. -/
theorem costs_bounded_monotone :
    (∀ q : Query, (1 ≤ (complexity q : ℚ) ∧ (complexity q : ℚ) ≤ 5) ∧
      (base : Resources ℚ) ≤ resources q ∧ (resources q : Resources ℚ) ≤ ceiling) ∧
    (∀ q q' : Query, q.Extended q' → (complexity q : ℚ) ≤ complexity q' ∧
      (resources q : Resources ℚ) ≤ resources q') ∧
    (∀ r : Resources ℚ, resourceFactor (r.map Partial.of) = Partial.of (resourceFactor r) ∧
      1 / 4 ≤ resourceFactor r ∧ resourceFactor r ≤ 2) ∧
    ∀ r s : Resources ℚ, 0 < r.cores → 0 < r.memory → r.cores ≤ s.cores → r.memory ≤ s.memory →
      resourceFactor s ≤ resourceFactor r := by
  refine ⟨fun q => ?_, fun q q' h => ?_, fun r => ?_, fun r s => ?_⟩
  · exact ⟨complexity_bounds q, scaled_bounds _⟩
  · have hcomplexity := complexity_mono h
    exact ⟨hcomplexity, scaled_mono hcomplexity⟩
  · exact ⟨resourceFactor_defined r, resourceFactor_bounds r⟩
  · exact resourceFactor_anti

/-- The visits of the last week from two cities. -/
def weekOfVisits : Query :=
  .ofTable "visits" [⟨"city", .eq, .single (.text "Rome"), .and⟩,
    ⟨"city", .eq, .single (.text "Lodi"), .or⟩] none (some (.relative 7))

/-- The trend of the visits of a quarter, grouped by three fields, under four conditions. -/
def quarterOfVisits : Query :=
  { weekOfVisits with
    conditions := weekOfVisits.conditions ++
      [⟨"age", .ge, .single (.int 18), .and⟩, ⟨"age", .le, .single (.int 65), .and⟩]
    aggregation := some ⟨["city", "age", "date"], [⟨"n", "count(*)"⟩]⟩
    window := some (.relative 90)
    intent := { weekOfVisits.intent with intent := .trend } }

theorem extended_quarterOfVisits : weekOfVisits.Extended quarterOfVisits := by
  refine .head (.conditions [⟨"age", .ge, .single (.int 18), .and⟩,
    ⟨"age", .le, .single (.int 65), .and⟩]) ?_
  refine .head (.aggregation rfl ⟨["city"], [⟨"n", "count(*)"⟩]⟩) ?_
  refine .head (.groupBy (b := ⟨["city", "age", "date"], [⟨"n", "count(*)"⟩]⟩) rfl ?_ rfl) ?_
  · exact List.sublist_append_left ["city"] ["age", "date"]
  refine .head (.window rfl (show (7 : UInt32) ≤ 90 by decide)) ?_
  exact .single (.intent rfl { weekOfVisits.intent with intent := .trend } rfl)

/-- The quarter costs more than the week, and an allocation of nothing is as slow as can be. -/
theorem costs_bounded_monotone_visits :
    weekOfVisits.Extended quarterOfVisits ∧
      (complexity weekOfVisits : ℚ) = 1 ∧ (complexity quarterOfVisits : ℚ) = 5 ∧
      (resources weekOfVisits : Resources ℚ) ≤ resources quarterOfVisits ∧
      resourceFactor ((Resources.mk 0 (-1) 1).map Partial.of) = Partial.of 2 ∧
      resourceFactor (Resources.mk (4 : ℚ) 2 1) ≤ resourceFactor (Resources.mk (2 : ℚ) 1 1) := by
  obtain ⟨-, hmono, hdefined, hanti⟩ := costs_bounded_monotone
  have hnothing : resourceFactor (Resources.mk (0 : ℚ) (-1) 1) = 2 := by decide +kernel
  refine ⟨extended_quarterOfVisits, by decide +kernel, by decide +kernel, ?_, ?_, ?_⟩
  · exact (hmono _ _ extended_quarterOfVisits).2
  · exact (hdefined ⟨0, -1, 1⟩).1.trans (congrArg Partial.of hnothing)
  · exact hanti ⟨2, 1, 1⟩ ⟨4, 2, 1⟩ (by norm_num) (by norm_num) (by norm_num) (by norm_num)

end Cost

end QueryDesk
