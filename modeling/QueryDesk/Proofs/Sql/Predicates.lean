import QueryDesk.Proofs.Fallible
import QueryDesk.Sql.Generator

/-!
# Which conditions become predicates

The conditions and the window of a query turned into atomic predicates, read backwards: when that
succeeds, and what the predicates are then (`atom_eq_ok_iff`, `Generator.filter_eq_ok_iff`).
-/

namespace QueryDesk

/-- The literals of an operand, in order. -/
def Operand.literals : Operand → List Literal
  | range low high => [low, high]
  | list items => items
  | single value => [value]

/-- A literal that has a text. -/
def Literal.Finite : Literal → Prop
  | .float x => x.isFinite = true
  | _ => True

namespace Sql

/-! ## Conditions -/

theorem identifier_name {role : Role} {name : String} {i : Identifier}
    (h : identifier role name = .ok i) : i.name = name := by
  unfold identifier at h
  split at h
  · exact (congrArg Identifier.name (Except.ok.inj h)).symm
  · cases h

theorem finite_eq_ok_iff {l l' : Literal} : finite l = .ok l' ↔ l.Finite ∧ l' = l := by
  cases l with
  | float x =>
    simp only [finite, Literal.Finite]
    split
    · next h => simp [h, eq_comm]
    · next h => simp [h]
  | bool b => simp [finite, Literal.Finite, eq_comm]
  | int n => simp [finite, Literal.Finite, eq_comm]
  | text s => simp [finite, Literal.Finite, eq_comm]

theorem mapM_finite_eq_ok_iff {ls ls' : List Literal} :
    ls.mapM finite = .ok ls' ↔ (∀ l ∈ ls, l.Finite) ∧ ls' = ls := by
  rw [mapM_eq_ok]
  constructor
  · intro h
    induction h with
    | nil => exact ⟨by simp, rfl⟩
    | @cons l l' ls ls' hl _ ih =>
      obtain ⟨hfinite, rfl⟩ := finite_eq_ok_iff.mp hl
      obtain ⟨hall, rfl⟩ := ih
      exact ⟨List.forall_mem_cons.mpr ⟨hfinite, hall⟩, rfl⟩
  · rintro ⟨hall, rfl⟩
    exact List.forall₂_same.mpr fun l hl => finite_eq_ok_iff.mpr ⟨hall l hl, rfl⟩

/-- The predicate that an operator makes of a field and the operand that fits it. -/
inductive Fits (field : Identifier) : Operator → Operand → Atom → Prop
  | compare {o : Operator} (ho : o ≠ .isIn ∧ o ≠ .between) (value : Literal) :
      Fits field o (.single value) (.compare field o value)
  | within (first : Literal) (more : List Literal) :
      Fits field .isIn (.list (first :: more)) (.within field first more)
  | withinSingle (value : Literal) : Fits field .isIn (.single value) (.within field value [])
  | between (low high : Literal) : Fits field .between (.range low high) (.between field low high)
  | betweenList (low high : Literal) :
      Fits field .between (.list [low, high]) (.between field low high)

/-- A condition becomes a predicate exactly if its field is an identifier, its literals have texts
and its operand fits its operator. -/
theorem atom_eq_ok_iff {c : Condition} {a : Atom} : atom c = .ok a ↔
    ∃ field, identifier .conditionField c.field = .ok field ∧
      (∀ l ∈ c.value.literals, l.Finite) ∧ Fits field c.operator c.value a := by
  obtain ⟨name, operator, value, join⟩ := c
  unfold atom
  rw [bind_eq_ok]
  refine exists_congr fun field => and_congr_right fun hfield => ?_
  dsimp only
  constructor
  · intro h
    split at h
    · simp only [bind_eq_ok, pure_eq_ok, finite_eq_ok_iff, mapM_finite_eq_ok_iff] at h
      obtain ⟨first, ⟨hfirst, rfl⟩, more, ⟨hmore, rfl⟩, rfl⟩ := h
      exact ⟨List.forall_mem_cons.mpr ⟨hfirst, hmore⟩, .within _ _⟩
    · simp only [bind_eq_ok, pure_eq_ok, finite_eq_ok_iff] at h
      obtain ⟨value, ⟨hvalue, rfl⟩, rfl⟩ := h
      exact ⟨List.forall_mem_singleton.mpr hvalue, .withinSingle _⟩
    · simp only [bind_eq_ok, pure_eq_ok, finite_eq_ok_iff] at h
      obtain ⟨low, ⟨hlow, rfl⟩, high, ⟨hhigh, rfl⟩, rfl⟩ := h
      exact ⟨List.forall_mem_cons.mpr ⟨hlow, List.forall_mem_singleton.mpr hhigh⟩, .between _ _⟩
    · simp only [bind_eq_ok, pure_eq_ok, finite_eq_ok_iff] at h
      obtain ⟨low, ⟨hlow, rfl⟩, high, ⟨hhigh, rfl⟩, rfl⟩ := h
      exact ⟨List.forall_mem_cons.mpr ⟨hlow, List.forall_mem_singleton.mpr hhigh⟩, .betweenList _ _⟩
    · cases h
    · cases h
    · next hin hbetween =>
      simp only [bind_eq_ok, pure_eq_ok, finite_eq_ok_iff] at h
      obtain ⟨value, ⟨hvalue, rfl⟩, rfl⟩ := h
      exact ⟨List.forall_mem_singleton.mpr hvalue, .compare ⟨hin, hbetween⟩ _⟩
    · cases h
  · rintro ⟨hfinite, hfits⟩
    cases hfits with
    | compare ho value =>
      have hvalue : finite value = .ok value :=
        finite_eq_ok_iff.mpr ⟨hfinite value List.mem_cons_self, rfl⟩
      obtain ⟨hin, hbetween⟩ := ho
      cases operator <;> first | contradiction | exact bind_eq_ok.mpr ⟨value, hvalue, rfl⟩
    | within first more =>
      obtain ⟨hfirst, hmore⟩ := List.forall_mem_cons.mp hfinite
      simp only [bind_eq_ok, pure_eq_ok, finite_eq_ok_iff, mapM_finite_eq_ok_iff]
      exact ⟨first, ⟨hfirst, rfl⟩, more, ⟨hmore, rfl⟩, rfl⟩
    | withinSingle value =>
      simp only [bind_eq_ok, pure_eq_ok, finite_eq_ok_iff]
      exact ⟨value, ⟨hfinite value List.mem_cons_self, rfl⟩, rfl⟩
    | between low high =>
      obtain ⟨hlow, hhigh⟩ := List.forall_mem_cons.mp hfinite
      simp only [bind_eq_ok, pure_eq_ok, finite_eq_ok_iff]
      exact ⟨low, ⟨hlow, rfl⟩, high, ⟨hhigh high List.mem_cons_self, rfl⟩, rfl⟩
    | betweenList low high =>
      obtain ⟨hlow, hhigh⟩ := List.forall_mem_cons.mp hfinite
      simp only [bind_eq_ok, pure_eq_ok, finite_eq_ok_iff]
      exact ⟨low, ⟨hlow, rfl⟩, high, ⟨hhigh high List.mem_cons_self, rfl⟩, rfl⟩

/-! ## Windows -/

/-- The bounds that a window puts on the date column: comparisons with a date, all of which have to
hold. -/
def windowBounds (today : Date) : Window → List (Operator × Date)
  | .relative days =>
    match today.minusDays? days.toNat with
    | some start => [(.ge, start), (.le, today)]
    | none => []
  | .absolute start stop =>
    if start = stop then start.toList.map (.eq, ·)
    else start.toList.map (.ge, ·) ++ stop.toList.map (.le, ·)

/-- The bounds that the window of a query puts on its date column, none if it has no window. -/
def bounds (q : Query) (today : Date) : List (Operator × Date) :=
  match q.window with
  | some w => windowBounds today w
  | none => []

/-- A window whose start is a day of the calendar. -/
def Starts (today : Date) (w : Window) : Prop :=
  ∀ days, w = .relative days → ∃ start, today.minusDays? days.toNat = some start

/-- The comparison of a column with a date. -/
def boundAtom (column : Identifier) (bound : Operator × Date) : Atom :=
  .compare column bound.1 (dateLiteral bound.2)

theorem windowAtoms_eq_ok_iff {column : Identifier} {today : Date} {w : Window}
    {atoms : List Atom} : windowAtoms column today w = .ok atoms ↔
      Starts today w ∧ atoms = (windowBounds today w).map (boundAtom column) := by
  cases w with
  | relative days =>
    cases hstart : today.minusDays? days.toNat with
    | some start =>
      have hstarts : Starts today (.relative days) := by
        rintro _ ⟨⟩
        exact ⟨start, hstart⟩
      have hatoms : windowAtoms column today (.relative days) =
          .ok ((windowBounds today (.relative days)).map (boundAtom column)) := by
        simp only [windowAtoms, windowBounds, hstart, List.map_cons, List.map_nil, boundAtom]
      rw [hatoms, Except.ok.injEq, and_iff_right hstarts, eq_comm]
    | none =>
      constructor
      · intro h
        simp only [windowAtoms, hstart] at h
        cases h
      · rintro ⟨hstarts, -⟩
        obtain ⟨start, hsome⟩ := hstarts days rfl
        rw [hstart] at hsome
        cases hsome
  | absolute start stop =>
    have hstarts : Starts today (.absolute start stop) := fun _ h => Window.noConfusion h
    have hatoms : windowAtoms column today (.absolute start stop) =
        .ok ((windowBounds today (.absolute start stop)).map (boundAtom column)) := by
      cases start with
      | none => cases stop <;> rfl
      | some start =>
        cases stop with
        | none => rfl
        | some stop =>
          simp only [windowAtoms, windowBounds, Option.some.injEq]
          split
          · next heq => rw [heq]; rfl
          · rfl
    rw [hatoms, Except.ok.injEq, and_iff_right hstarts, eq_comm]

/-! ## Filters -/

/-- What the filter of a query is made of: a predicate for each condition, with its join, and one
for each bound of the window. -/
theorem Generator.filter_eq_ok_iff {g : Generator} {q : Query} {f : Filter} : g.filter q = .ok f ↔
    List.Forall₂ (fun c x => c.join = x.1 ∧ atom c = .ok x.2) q.conditions f.conditions ∧
      (q.window = none ∧ f.window = [] ∨ ∃ w column, q.window = some w ∧
        identifier .dateColumn q.source.dateColumn = .ok column ∧ Starts g.today w ∧
          f.window = (windowBounds g.today w).map (boundAtom column)) := by
  have hconditions : ∀ xs : List (Join × Atom),
      (q.conditions.mapM fun c => do return (c.join, ← atom c)) = .ok xs ↔
        List.Forall₂ (fun c x => c.join = x.1 ∧ atom c = .ok x.2) q.conditions xs := by
    intro xs
    have hstep : ∀ (c : Condition) (x : Join × Atom),
        (do return (c.join, ← atom c) : Except SqlFault (Join × Atom)) = .ok x ↔
          c.join = x.1 ∧ atom c = .ok x.2 := by
      intro c x
      rw [bind_eq_ok]
      constructor
      · rintro ⟨a, ha, hx⟩
        obtain rfl := pure_eq_ok.mp hx
        exact ⟨rfl, ha⟩
      · rintro ⟨hjoin, ha⟩
        exact ⟨x.2, ha, pure_eq_ok.mpr (Prod.ext hjoin rfl)⟩
    simp only [mapM_eq_ok, hstep]
  unfold filter
  simp only [bind_eq_ok, hconditions]
  cases q.window with
  | none =>
    simp only [pure_eq_ok]
    constructor
    · rintro ⟨xs, hxs, rfl⟩
      exact ⟨hxs, Or.inl ⟨trivial, rfl⟩⟩
    · rintro ⟨hxs, ⟨-, hwindow⟩ | ⟨w, _, hw, -⟩⟩
      · exact ⟨f.conditions, hxs, by rw [← hwindow]⟩
      · cases hw
  | some w =>
    simp only [bind_eq_ok, pure_eq_ok, windowAtoms_eq_ok_iff]
    constructor
    · rintro ⟨xs, hxs, column, hcolumn, atoms, ⟨hstarts, hatoms⟩, rfl⟩
      exact ⟨hxs, Or.inr ⟨w, column, rfl, hcolumn, hstarts, hatoms⟩⟩
    · rintro ⟨hxs, ⟨hw, -⟩ | ⟨w, column, hw, hcolumn, hstarts, hatoms⟩⟩
      · cases hw
      · cases hw
        exact ⟨f.conditions, hxs, column, hcolumn, f.window, ⟨hstarts, hatoms⟩, rfl⟩

end Sql

end QueryDesk
