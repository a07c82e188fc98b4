import QueryDesk.Proofs.Fallible

/-!
# Demands in order

A step that checks what it is given makes its demands one after the other and reports the fault of
the first that is not met.  `Checks x ds` says that `x` does so for the demands `ds`; steps in
sequence check their demands in sequence (`Checks.bind`, `Checks.mapM`), and a step succeeds exactly
if all of its demands are met (`Checks.exists_ok_iff`).
-/

namespace QueryDesk

variable {ε α β : Type}

/-- A condition with the fault that is reported where it is not met. -/
structure Demand (ε : Type) where
  met : Prop
  fault : ε

/-- The fault of the first demand that is not met. -/
inductive FirstUnmet : List (Demand ε) → ε → Prop
  | here {x : Demand ε} {ds : List (Demand ε)} (h : ¬x.met) : FirstUnmet (x :: ds) x.fault
  | later {x : Demand ε} {ds : List (Demand ε)} {e : ε} (h : x.met) (hrest : FirstUnmet ds e) :
      FirstUnmet (x :: ds) e

namespace FirstUnmet

variable {x : Demand ε} {ds r : List (Demand ε)} {e : ε}

theorem not_nil : ¬FirstUnmet [] e := nofun

theorem cons_iff : FirstUnmet (x :: ds) e ↔ ¬x.met ∧ x.fault = e ∨ x.met ∧ FirstUnmet ds e := by
  constructor
  · intro h
    cases h with
    | here h => exact Or.inl ⟨h, rfl⟩
    | later h hrest => exact Or.inr ⟨h, hrest⟩
  · rintro (⟨h, rfl⟩ | ⟨h, hrest⟩)
    · exact .here h
    · exact .later h hrest

theorem exists_iff : (∃ e, FirstUnmet ds e) ↔ ∃ x ∈ ds, ¬x.met := by
  induction ds with
  | nil => simp [not_nil]
  | cons x ds ih =>
    by_cases hx : x.met
    · simp [cons_iff, hx, ih]
    · simp [cons_iff, hx]

theorem append_iff : FirstUnmet (ds ++ r) e ↔
    FirstUnmet ds e ∨ (∀ x ∈ ds, x.met) ∧ FirstUnmet r e := by
  induction ds with
  | nil => simp [not_nil]
  | cons x ds ih =>
    rw [List.cons_append, cons_iff, cons_iff, ih, List.forall_mem_cons]
    tauto

theorem exists_mem (h : FirstUnmet ds e) : ∃ x ∈ ds, ¬x.met ∧ x.fault = e := by
  induction h with
  | here h => exact ⟨_, List.mem_cons_self, h, rfl⟩
  | later _ _ ih =>
    obtain ⟨x, hx, hunmet⟩ := ih
    exact ⟨x, List.mem_cons_of_mem _ hx, hunmet⟩

/-- Demands that are met in front of others do not matter. -/
theorem append_iff_right (h : ∀ x ∈ ds, x.met) : FirstUnmet (ds ++ r) e ↔ FirstUnmet r e := by
  rw [append_iff, or_iff_right fun hfirst => ?_, and_iff_right h]
  obtain ⟨x, hx, hunmet, -⟩ := hfirst.exists_mem
  exact hunmet (h x hx)

/-- Nor do they behind others. -/
theorem append_iff_left (h : ∀ x ∈ r, x.met) : FirstUnmet (ds ++ r) e ↔ FirstUnmet ds e := by
  rw [append_iff, or_iff_left]
  rintro ⟨-, hrest⟩
  obtain ⟨x, hx, hunmet, -⟩ := hrest.exists_mem
  exact hunmet (h x hx)

end FirstUnmet

/-- A step that fails exactly with the fault of the first unmet demand. -/
def Checks (x : Except ε α) (ds : List (Demand ε)) : Prop :=
  ∀ e, x = .error e ↔ FirstUnmet ds e

namespace Checks

variable {x : Except ε α} {ds r : List (Demand ε)}

/-- A step succeeds exactly if all of its demands are met. -/
theorem exists_ok_iff (h : Checks x ds) : (∃ a, x = .ok a) ↔ ∀ y ∈ ds, y.met := by
  have hfails : (∃ e, x = .error e) ↔ ∃ y ∈ ds, ¬y.met := by
    simp only [h _, FirstUnmet.exists_iff]
  cases x with
  | ok a => simpa using hfails
  | error e => simpa using hfails

theorem ok (a : α) : Checks (.ok a : Except ε α) [] := fun e => by
  simp [FirstUnmet.not_nil]

/-- What is demanded after the first unmet demand does not matter. -/
theorem error {y : Demand ε} (h : ¬y.met) : Checks (.error y.fault : Except ε α) (y :: ds) :=
  fun e => by simp [FirstUnmet.cons_iff, h]

/-- A demand that is met is checked by doing nothing. -/
theorem cons {y : Demand ε} (hy : y.met) (h : Checks x ds) : Checks x (y :: ds) := fun e => by
  simp [FirstUnmet.cons_iff, hy, h e]

/-- A test that fails with a fault checks its condition. -/
theorem dite {p : Prop} [Decidable p] (a : p → α) (e : ε) :
    Checks (if h : p then .ok (a h) else .error e) [⟨p, e⟩] := by
  split
  · next h => exact (ok (a h)).cons h
  · next h => exact error (y := ⟨p, e⟩) h

/-- Steps in sequence check their demands in sequence. -/
theorem bind {f : α → Except ε β} (hx : Checks x ds) (hf : ∀ a, x = .ok a → Checks (f a) r) :
    Checks (x >>= f) (ds ++ r) := by
  intro e
  rw [FirstUnmet.append_iff, ← hx.exists_ok_iff, ← hx e]
  cases x with
  | error e' => simp [Bind.bind, Except.bind]
  | ok a => simpa [Bind.bind, Except.bind] using hf a rfl e

/-- What is done with the result does not matter. -/
theorem map {f : α → β} (hx : Checks x ds) : Checks (x >>= fun a => pure (f a)) ds := by
  have hpure : ∀ a, x = .ok a → Checks (pure (f a) : Except ε β) [] := fun a _ => ok (f a)
  simpa using hx.bind hpure

theorem mapM {γ : Type} {f : γ → Except ε α} {demands : γ → List (Demand ε)} {xs : List γ}
    (h : ∀ c ∈ xs, Checks (f c) (demands c)) : Checks (xs.mapM f) (xs.flatMap demands) := by
  induction xs with
  | nil => exact ok []
  | cons c xs ih =>
    rw [List.mapM_cons, List.flatMap_cons]
    refine (h c List.mem_cons_self).bind fun a _ => ?_
    exact (ih fun c hc => h c (List.mem_cons_of_mem _ hc)).map

end Checks

end QueryDesk
