import QueryDesk.Proofs.Sql.Generation
import QueryDesk.Proofs.Sql.Yield

/-!
# What a WHERE clause means

The WHERE clause of a query, read by `readWhere`, is the conjunction of its conditions and of its
window, the conditions being a disjunction of runs that are joined by AND (`runs`).  Grouping is
followed along a row of predicates by what its frame holds so far (`Frame.extend_spec`); the
parentheses that the renderer puts around conditions with an OR close such a frame before the window
is added.
-/

namespace QueryDesk.Sql

/-! ## Runs of conditions -/

/-- Conditions cut into runs: a condition joined by OR starts a new run, any other one belongs to
the current run. -/
def runsFrom (current : List Condition) : List Condition → List (List Condition)
  | [] => [current]
  | c :: rest =>
    if c.join = .or then current :: runsFrom [c] rest else runsFrom (current ++ [c]) rest

/-- The runs of conditions; the join of the first one does not matter. -/
def runs : List Condition → List (List Condition)
  | [] => []
  | c :: rest => runsFrom [c] rest

/-- The truth of a row of predicates that continues a run of known truth, AND binding tighter than
OR. -/
def RowHolds (v : Predicate → Prop) : Prop → List (Join × Predicate) → Prop
  | run, [] => run
  | run, (.and, p) :: rest => RowHolds v (run ∧ v p) rest
  | run, (.or, p) :: rest => run ∨ RowHolds v (v p) rest

theorem rowHolds_runsFrom (v : Predicate → Prop) : ∀ (cs current : List Condition),
    RowHolds v (∀ c ∈ current, v (predicateOf c)) (cs.map fun c => (c.join, predicateOf c)) ↔
      ∃ run ∈ runsFrom current cs, ∀ c ∈ run, v (predicateOf c)
  | [], current => by simp [RowHolds, runsFrom]
  | c :: cs, current => by
    cases hjoin : c.join with
    | or =>
      have ih := rowHolds_runsFrom v cs [c]
      rw [List.forall_mem_singleton] at ih
      rw [List.map_cons, hjoin, RowHolds, ih, runsFrom, if_pos hjoin]
      simp
    | and =>
      have ih := rowHolds_runsFrom v cs (current ++ [c])
      have hne : ¬c.join = .or := by rw [hjoin]; exact Join.noConfusion
      rw [List.forall_mem_append, List.forall_mem_singleton] at ih
      rw [List.map_cons, hjoin, RowHolds, ih, runsFrom, if_neg hne]

/-- Without an OR a row holds exactly if all of it does. -/
theorem rowHolds_of_no_or {v : Predicate → Prop} {xs : List (Join × Predicate)}
    (h : ∀ x ∈ xs, x.1 = .and) : ∀ run, RowHolds v run xs ↔ run ∧ ∀ x ∈ xs, v x.2 := by
  induction xs with
  | nil => intro run; simp [RowHolds]
  | cons x xs ih =>
    obtain ⟨j, p⟩ := x
    obtain ⟨hj, hrest⟩ := List.forall_mem_cons.mp h
    obtain rfl : j = .and := hj
    intro run
    rw [RowHolds, ih hrest, List.forall_mem_cons, and_assoc]

theorem map_and_join (ws : List Predicate) : ∀ x ∈ ws.map (Join.and, ·), x.1 = Join.and := by
  intro x hx
  obtain ⟨w, -, rfl⟩ := List.mem_map.mp hx
  rfl

/-! ## Grouping a row -/

namespace Frame

/-- A frame after one more predicate of a row. -/
def next (f : Frame) : Join × Predicate → Frame
  | (.and, p) => f.add (.atom p)
  | (.or, p) => Frame.add ⟨f.formula?, none⟩ (.atom p)

/-- A frame after a row of predicates. -/
def extend (f : Frame) (xs : List (Join × Predicate)) : Frame := xs.foldl next f

/-- The truth of what stands before the last OR. -/
def EarlierHolds (v : Predicate → Prop) (f : Frame) : Prop := ∃ e ∈ f.earlier, e.Holds v

/-- The truth of what stands after it. -/
def RunHolds (v : Predicate → Prop) (f : Frame) : Prop := ∀ e ∈ f.run, e.Holds v

/-- The predicates read into a frame. -/
def predicates (f : Frame) : List Predicate :=
  (f.earlier.map Formula.predicates).getD [] ++ (f.run.map Formula.predicates).getD []

/-- A frame whose run has started has a formula, with the predicates and the meaning of the
frame. -/
theorem exists_formula {f : Frame} {r : Formula} (h : f.run = some r) :
    ∃ e, f.formula? = some e ∧ e.predicates = f.predicates ∧
      ∀ v, e.Holds v ↔ f.EarlierHolds v ∨ f.RunHolds v := by
  obtain ⟨earlier, run⟩ := f
  obtain rfl : run = some r := h
  cases earlier with
  | none =>
    refine ⟨r, rfl, rfl, fun v => ?_⟩
    simp [EarlierHolds, RunHolds]
  | some d =>
    refine ⟨.or d r, rfl, rfl, fun v => ?_⟩
    simp [EarlierHolds, RunHolds, Formula.Holds]

theorem earlierHolds_add {v : Predicate → Prop} (f : Frame) (e : Formula) :
    (f.add e).EarlierHolds v ↔ f.EarlierHolds v := Iff.rfl

theorem runHolds_add {v : Predicate → Prop} (f : Frame) (e : Formula) :
    (f.add e).RunHolds v ↔ f.RunHolds v ∧ e.Holds v := by
  obtain ⟨earlier, run⟩ := f
  cases run with
  | none => simp [RunHolds, add]
  | some r => simp [RunHolds, add, Formula.Holds]

theorem predicates_add (f : Frame) (e : Formula) :
    (f.add e).predicates = f.predicates ++ e.predicates := by
  obtain ⟨earlier, run⟩ := f
  cases run with
  | none => simp [predicates, add]
  | some r => simp [predicates, add, Formula.predicates]

theorem extend_and (f : Frame) (p : Predicate) (xs : List (Join × Predicate)) :
    f.extend ((.and, p) :: xs) = (f.add (.atom p)).extend xs := rfl

theorem extend_or {f : Frame} {e : Formula} (h : f.formula? = some e) (p : Predicate)
    (xs : List (Join × Predicate)) :
    f.extend ((.or, p) :: xs) = (Frame.add ⟨some e, none⟩ (.atom p)).extend xs := by
  rw [← h]
  rfl

/-- What a frame holds after a row, and its predicates. -/
theorem extend_spec (xs : List (Join × Predicate)) : ∀ {f : Frame} {r : Formula}, f.run = some r →
    (∃ r', (f.extend xs).run = some r') ∧
      (f.extend xs).predicates = f.predicates ++ xs.map Prod.snd ∧
      ∀ v, ((f.extend xs).EarlierHolds v ∨ (f.extend xs).RunHolds v) ↔
        (f.EarlierHolds v ∨ RowHolds v (f.RunHolds v) xs) := by
  induction xs with
  | nil =>
    intro f r h
    exact ⟨⟨r, h⟩, by simp [extend], fun v => Iff.rfl⟩
  | cons x xs ih =>
    intro f r h
    obtain ⟨j, p⟩ := x
    cases j with
    | and =>
      have hrun : ∃ r', (f.add (.atom p)).run = some r' := ⟨_, rfl⟩
      obtain ⟨r', hr'⟩ := hrun
      obtain ⟨hsome, hpredicates, hholds⟩ := ih hr'
      rw [extend_and]
      refine ⟨hsome, ?_, fun v => ?_⟩
      · rw [hpredicates, predicates_add, List.append_assoc]
        rfl
      · rw [hholds, earlierHolds_add, RowHolds, propext (runHolds_add f (.atom p))]
        rfl
    | or =>
      obtain ⟨e, he, hepredicates, heholds⟩ := exists_formula h
      obtain ⟨hsome, hpredicates, hholds⟩ :=
        ih (f := Frame.add ⟨some e, none⟩ (.atom p)) rfl
      rw [extend_or he]
      refine ⟨hsome, ?_, fun v => ?_⟩
      · rw [hpredicates, predicates_add, List.map_cons, ← hepredicates]
        simp [predicates, Formula.predicates]
      · rw [hholds, RowHolds, ← or_assoc, ← heholds]
        simp [EarlierHolds, RunHolds, add, Formula.Holds]

end Frame

/-- Grouping passes over the rest of a row by extending the frame. -/
theorem group_rowTail (outer : List Frame) (rest : List Item) (xs : List (Join × Predicate)) :
    ∀ {f : Frame} {r : Formula}, f.run = some r →
      group outer f (rowTail xs ++ rest) = group outer (f.extend xs) rest := by
  induction xs with
  | nil => intro f r _; rfl
  | cons x xs ih =>
    intro f r h
    obtain ⟨j, p⟩ := x
    have hcons : rowTail ((j, p) :: xs) ++ rest = .join j :: .predicate p :: (rowTail xs ++ rest) :=
      rfl
    cases j with
    | and =>
      rw [hcons, group, group]
      exact ih rfl
    | or =>
      obtain ⟨e, he, -⟩ := Frame.exists_formula h
      rw [hcons, group, he, Frame.extend_or he]
      simp only
      rw [group]
      exact ih rfl

/-- The formula of a row that starts with a formula of its own. -/
theorem exists_row_formula (first : Formula) (xs : List (Join × Predicate)) :
    ∃ e, ((Frame.empty.add first).extend xs).formula? = some e ∧
      e.predicates = first.predicates ++ xs.map Prod.snd ∧
      ∀ v, e.Holds v ↔ RowHolds v (first.Holds v) xs := by
  obtain ⟨⟨r, hr⟩, hpredicates, hholds⟩ :=
    Frame.extend_spec xs (show (Frame.empty.add first).run = some first from rfl)
  obtain ⟨e, he, hepredicates, heholds⟩ := Frame.exists_formula hr
  refine ⟨e, he, ?_, fun v => ?_⟩
  · rw [hepredicates, hpredicates, Frame.predicates_add]
    rfl
  · rw [heholds, hholds]
    simp [Frame.EarlierHolds, Frame.RunHolds, Frame.empty, Frame.add]

/-- A row is grouped into a formula with its predicates and its meaning. -/
theorem group_row (p : Predicate) (xs : List (Join × Predicate)) :
    ∃ e, group [] .empty (.predicate p :: rowTail xs) = some e ∧
      e.predicates = p :: xs.map Prod.snd ∧ ∀ v, e.Holds v ↔ RowHolds v (v p) xs := by
  obtain ⟨e, he, hpredicates, hholds⟩ := exists_row_formula (.atom p) xs
  have hgroup := group_rowTail [] [] xs (f := Frame.empty.add (.atom p)) rfl
  rw [List.append_nil] at hgroup
  exact ⟨e, by rw [group, hgroup, group, he], hpredicates, hholds⟩

/-- A row in parentheses followed by predicates that are joined by AND. -/
theorem group_parens (p : Predicate) (xs : List (Join × Predicate)) (ws : List Predicate) :
    ∃ e, group [] .empty (.opening :: (.predicate p :: rowTail xs ++ [.closing]) ++
        rowTail (ws.map (Join.and, ·))) = some e ∧
      e.predicates = p :: xs.map Prod.snd ++ ws ∧
      ∀ v, e.Holds v ↔ RowHolds v (v p) xs ∧ ∀ w ∈ ws, v w := by
  obtain ⟨inner, hinner, hinnerpredicates, hinnerholds⟩ := exists_row_formula (.atom p) xs
  obtain ⟨e, he, hpredicates, hholds⟩ := exists_row_formula inner (ws.map (Join.and, ·))
  have hclose := group_rowTail [.empty] (.closing :: rowTail (ws.map (Join.and, ·))) xs
    (f := Frame.empty.add (.atom p)) rfl
  have hgroup := group_rowTail [] [] (ws.map (Join.and, ·)) (f := Frame.empty.add inner) rfl
  rw [List.append_nil] at hgroup
  refine ⟨e, ?_, ?_, fun v => ?_⟩
  · rw [List.cons_append, List.cons_append, List.cons_append, List.append_assoc,
      List.singleton_append, group, group, hclose, group, hinner]
    simp only
    rw [hgroup, group, he]
  · rw [hpredicates, hinnerpredicates, List.map_map]
    simp [Formula.predicates, Function.comp_def]
  · rw [hholds, rowHolds_of_no_or (map_and_join ws), hinnerholds]
    simp [Formula.Holds]

/-! ## Reading a filter -/

/-- Predicates that follow something by AND continue its row. -/
theorem intercalate_and (is : List Item) (ws : List Predicate) :
    [Item.join .and].intercalate (is :: ws.map fun w => [.predicate w]) =
      is ++ rowTail (ws.map (Join.and, ·)) := by
  induction ws generalizing is with
  | nil => simp [rowTail]
  | cons w ws ih =>
    rw [List.map_cons, List.intercalate_cons_cons, ih]
    simp [rowTail]

/-- The clause that the pieces are read as. -/
theorem Yields.items_tokens {ps : List Piece} {is : List Item} (h : Yields ps is) :
    items .start (tokens ps) = some is := by
  have h := h [] Breaks.nil
  rw [List.append_nil] at h
  rw [h]
  exact congrArg some (List.append_nil is)

/-- The runs of conditions in a row. -/
theorem rowHolds_runs (v : Predicate → Prop) (c : Condition) (cs : List Condition) :
    RowHolds v (v (predicateOf c)) (cs.map fun c => (c.join, predicateOf c)) ↔
      ∃ run ∈ runs (c :: cs), ∀ c ∈ run, v (predicateOf c) := by
  have h := rowHolds_runsFrom v cs [c]
  rwa [List.forall_mem_singleton] at h

theorem join_eq_and {cs : List Condition} {xs : List (Join × Atom)}
    (h : List.Forall₂ (fun c x => c.join = x.1 ∧ atom c = .ok x.2) cs xs)
    (hor : xs.any (·.1 == .or) = false) :
    ∀ y ∈ cs.map fun c => (c.join, predicateOf c), y.1 = .and := by
  induction h with
  | nil => simp
  | @cons c x cs xs hcx _ ih =>
    rw [List.any_cons, Bool.or_eq_false_iff] at hor
    rw [List.map_cons, List.forall_mem_cons]
    refine ⟨?_, ih hor.2⟩
    have hne : c.join ≠ .or := by
      rw [hcx.1]
      exact ne_of_beq_false hor.1
    cases hjoin : c.join with
    | and => rfl
    | or => exact absurd hjoin hne

/-- A filter that is read as a formula with the given predicates and meaning. -/
def Filter.ReadAs (f : Filter) (ps : List Predicate) (meaning : (Predicate → Prop) → Prop) : Prop :=
  ∃ e, (items .start (tokens f.pieces)).bind (group [] .empty) = some e ∧ e.predicates = ps ∧
    ∀ v, e.Holds v ↔ meaning v

section Read

variable {window : List Atom} {ws : List Predicate}
  (hwindow : List.Forall₂ Yields (window.map Atom.pieces) (ws.map fun w => [.predicate w]))

include hwindow

theorem Filter.readAs_window (hsome : ws ≠ []) :
    Filter.ReadAs ⟨[], window⟩ ws fun v => ∀ w ∈ ws, v w := by
  obtain ⟨w, ws, rfl⟩ := List.exists_cons_of_ne_nil hsome
  obtain ⟨e, he, hpredicates, hholds⟩ := group_row w (ws.map (Join.and, ·))
  have hparts : partPieces ⟨[], window⟩ = window.map Atom.pieces := rfl
  have hfilled : window.map Atom.pieces ≠ [] := by
    intro hnil
    rw [hnil] at hwindow
    cases hwindow
  have hitems := (Yields.intercalate hwindow hfilled).items_tokens
  rw [List.map_cons, intercalate_and] at hitems
  refine ⟨e, ?_, ?_, fun v => ?_⟩
  · rw [pieces, hparts, hitems]
    exact he
  · rw [hpredicates, List.map_map]
    simp [Function.comp_def]
  · show _ ↔ ∀ p ∈ w :: ws, v p
    rw [hholds, rowHolds_of_no_or (map_and_join ws), List.forall_mem_cons]
    simp

variable {c : Condition} {cs : List Condition} {x : Join × Atom} {xs : List (Join × Atom)}
  (hx : atom c = .ok x.2) (hxs : List.Forall₂ (fun c x => c.join = x.1 ∧ atom c = .ok x.2) cs xs)

include hx hxs

/-- With an OR the conditions are read inside parentheses. -/
theorem Filter.readAs_parens (hor : xs.any (·.1 == .or) = true) :
    Filter.ReadAs ⟨x :: xs, window⟩ ((c :: cs).map predicateOf ++ ws) fun v =>
      (∃ run ∈ runs (c :: cs), ∀ c ∈ run, v (predicateOf c)) ∧ ∀ w ∈ ws, v w := by
  obtain ⟨e, he, hpredicates, hholds⟩ :=
    group_parens (predicateOf c) (cs.map fun c => (c.join, predicateOf c)) ws
  have hparts : partPieces ⟨x :: xs, window⟩ =
      (codes "(" ++ (chainPieces (x :: xs) ++ codes ")")) :: window.map Atom.pieces := by
    simp [partPieces, hasOr, hor]
  have hall := Yields.intercalate (.cons (yields_chainPieces hx hxs).parens hwindow)
    (List.cons_ne_nil _ _)
  have hitems := hall.items_tokens
  rw [intercalate_and] at hitems
  refine ⟨e, ?_, ?_, fun v => ?_⟩
  · rw [pieces, hparts, hitems]
    exact he
  · rw [hpredicates, List.map_map]
    simp [Function.comp_def]
  · show _ ↔ (∃ run ∈ runs (c :: cs), ∀ c ∈ run, v (predicateOf c)) ∧ ∀ w ∈ ws, v w
    rw [hholds, rowHolds_runs]

/-- Without one they are read in one row with the window. -/
theorem Filter.readAs_row (hor : xs.any (·.1 == .or) = false) :
    Filter.ReadAs ⟨x :: xs, window⟩ ((c :: cs).map predicateOf ++ ws) fun v =>
      (∃ run ∈ runs (c :: cs), ∀ c ∈ run, v (predicateOf c)) ∧ ∀ w ∈ ws, v w := by
  obtain ⟨e, he, hpredicates, hholds⟩ := group_row (predicateOf c)
    ((cs.map fun c => (c.join, predicateOf c)) ++ ws.map (Join.and, ·))
  have hparts : partPieces ⟨x :: xs, window⟩ =
      chainPieces (x :: xs) :: window.map Atom.pieces := by
    simp [partPieces, hasOr, hor]
  have hall := Yields.intercalate (.cons (yields_chainPieces hx hxs) hwindow)
    (List.cons_ne_nil _ _)
  have hitems := hall.items_tokens
  rw [intercalate_and] at hitems
  have hjoins := join_eq_and hxs hor
  refine ⟨e, ?_, ?_, fun v => ?_⟩
  · rw [pieces, hparts, hitems, List.cons_append, rowTail, rowTail, ← List.flatMap_append]
    exact he
  · rw [hpredicates, List.map_append, List.map_map, List.map_map]
    simp [Function.comp_def]
  · show _ ↔ (∃ run ∈ runs (c :: cs), ∀ c ∈ run, v (predicateOf c)) ∧ ∀ w ∈ ws, v w
    rw [hholds, rowHolds_of_no_or (List.forall_mem_append.mpr ⟨hjoins, map_and_join ws⟩),
      ← rowHolds_runs, rowHolds_of_no_or hjoins, List.forall_mem_append]
    simp [and_assoc]

end Read

/-- A filter is read as its conditions and the predicates of its window. -/
theorem Filter.readAs {f : Filter} {cs : List Condition} {ws : List Predicate}
    (hconditions : List.Forall₂ (fun c x => c.join = x.1 ∧ atom c = .ok x.2) cs f.conditions)
    (hwindow : List.Forall₂ (fun a w => Yields (Atom.pieces a) [.predicate w]) f.window ws)
    (hne : cs ≠ [] ∨ ws ≠ []) :
    f.ReadAs (cs.map predicateOf ++ ws) fun v =>
      (cs = [] ∨ ∃ run ∈ runs cs, ∀ c ∈ run, v (predicateOf c)) ∧ ∀ w ∈ ws, v w := by
  obtain ⟨conditions, window⟩ := f
  have hwindow' :
      List.Forall₂ Yields (window.map Atom.pieces) (ws.map fun w => [.predicate w]) := by
    rw [List.forall₂_map_left_iff, List.forall₂_map_right_iff]
    exact hwindow
  cases hconditions with
  | nil =>
    have hws : ws ≠ [] := by simpa using hne
    simpa using Filter.readAs_window hwindow' hws
  | @cons c x cs xs hcx hrest =>
    simp only [List.cons_ne_nil, false_or]
    cases hor : xs.any (·.1 == .or) with
    | true => exact Filter.readAs_parens hwindow' hcx.2 hrest hor
    | false => exact Filter.readAs_row hwindow' hcx.2 hrest hor

/-! ## The clause of a query -/

/-- The predicates of the window of a query, as they are shown. -/
def windowPredicates (q : Query) (today : Date) : List Predicate :=
  (bounds q today).map fun bound =>
    ⟨q.source.dateColumn.toList, bound.1, [.text bound.2.text.toList]⟩

theorem windowBounds_operator {today : Date} {w : Window} {bound : Operator × Date}
    (h : bound ∈ windowBounds today w) : bound.1 ≠ .isIn ∧ bound.1 ≠ .between := by
  have hthree : bound.1 = .eq ∨ bound.1 = .ge ∨ bound.1 = .le := by
    unfold windowBounds at h
    split at h
    · split at h
      · simp only [List.mem_cons, List.not_mem_nil, or_false] at h
        rcases h with rfl | rfl
        · exact Or.inr (Or.inl rfl)
        · exact Or.inr (Or.inr rfl)
      · cases h
    · split at h
      · obtain ⟨_, -, rfl⟩ := List.mem_map.mp h
        exact Or.inl rfl
      · rcases List.mem_append.mp h with h | h
        · obtain ⟨_, -, rfl⟩ := List.mem_map.mp h
          exact Or.inr (Or.inl rfl)
        · obtain ⟨_, -, rfl⟩ := List.mem_map.mp h
          exact Or.inr (Or.inr rfl)
  rcases hthree with h | h | h <;> rw [h] <;> decide

/-- The comparison of a column with a bound, as it is shown. -/
def boundPredicate (column : Identifier) (bound : Operator × Date) : Predicate :=
  ⟨column.name.toList, bound.1, [.text bound.2.text.toList]⟩

theorem yields_windowBounds (column : Identifier) (today : Date) (w : Window) :
    List.Forall₂ (fun a p => Yields (Atom.pieces a) [.predicate p])
      ((windowBounds today w).map (boundAtom column))
      ((windowBounds today w).map (boundPredicate column)) := by
  rw [List.forall₂_map_left_iff, List.forall₂_map_right_iff, List.forall₂_same]
  intro bound hbound
  exact Yields.atom (.compare (windowBounds_operator hbound) (dateLiteral bound.2))

/-- The text of a statement with the given text between its FROM clause and the clauses after the
WHERE clause. -/
def Statement.withWhere (s : Statement) (clause : String) : String :=
  "SELECT " ++ s.selection.sql ++ " FROM " ++ s.source.sql ++ clause ++ s.tail

theorem Statement.sql_eq_withWhere (s : Statement) : s.sql = s.withWhere s.whereClause := by
  simp only [sql, withWhere, tail, String.append_assoc]

/-- A text that is the WHERE clause of a query: it is there if there is something to say, it has
every predicate in order, and it is true when the conditions and the window hold. -/
structure WhereMeans (q : Query) (today : Date) (clause : String) : Prop where
  absent_iff : clause = "" ↔ q.conditions = [] ∧ bounds q today = []
  read : clause ≠ "" → ∃ e, readWhere clause = some e ∧
    e.predicates = q.conditions.map predicateOf ++ windowPredicates q today ∧
    ∀ v, e.Holds v ↔
      (q.conditions = [] ∨ ∃ run ∈ runs q.conditions, ∀ c ∈ run, v (predicateOf c)) ∧
        ∀ p ∈ windowPredicates q today, v p

namespace Generator

variable {g : Generator} {q : Query} {d : Dialect}

/-- The window of a filter yields the predicates of the query's window. -/
theorem yields_window {f : Filter} (h : g.filter q = .ok f) :
    List.Forall₂ (fun a w => Yields (Atom.pieces a) [.predicate w]) f.window
      (windowPredicates q g.today) := by
  obtain ⟨-, ⟨hnone, hnil⟩ | ⟨w, column, hw, hcolumn, -, hatoms⟩⟩ := filter_eq_ok_iff.mp h
  · rw [windowPredicates, bounds, hnone, hnil]
    exact .nil
  · rw [windowPredicates, bounds, hw, hatoms, ← identifier_name hcolumn]
    exact yields_windowBounds column g.today w

theorem isEmpty_parts_iff {f : Filter} (h : g.filter q = .ok f) :
    f.parts.isEmpty = true ↔ q.conditions = [] ∧ bounds q g.today = [] := by
  have hconditions := (filter_eq_ok_iff.mp h).1.length_eq
  have hwindow := (yields_window h).length_eq
  rw [windowPredicates, List.length_map] at hwindow
  rw [Filter.isEmpty_parts, Bool.and_eq_true, List.isEmpty_iff, List.isEmpty_iff,
    ← List.length_eq_zero_iff, ← List.length_eq_zero_iff,
    ← List.length_eq_zero_iff (l := q.conditions),
    ← List.length_eq_zero_iff (l := bounds q g.today), hconditions, hwindow]

/-- The three statements of a query carry one WHERE clause, none if there is neither a condition nor
a bound.  Read back, it has the predicates of the conditions and of the window in order, and it is
true exactly when all conditions of some run hold, unless there are none, and the window does. -/
theorem generate_where_means {b : SqlBundle} (h : g.generate q d = .ok b) :
    ∃ s clause, g.statements q d = .ok s ∧ b.sql = s.main.withWhere clause ∧
      b.countSql = s.count.withWhere clause ∧ b.sampleSql = s.sample.withWhere clause ∧
      WhereMeans q g.today clause := by
  obtain ⟨s, hs, -, rfl⟩ := generate_eq_ok_iff.mp h
  obtain ⟨source, cs, fields, filter, order, -, -, hfilter, -, hparts⟩ := statements_eq_ok_iff.mp hs
  have hcount : s.count.whereClause = s.main.whereClause := by rw [hparts]; rfl
  have hsample : s.sample.whereClause = s.main.whereClause := by rw [hparts]; rfl
  have habsent : s.main.whereClause = "" ↔ q.conditions = [] ∧ bounds q g.today = [] := by
    rw [← isEmpty_parts_iff hfilter, Statement.whereClause_eq, hparts]
    cases filter.parts.isEmpty <;> simp
  refine ⟨s, s.main.whereClause, hs, s.main.sql_eq_withWhere, ?_, ?_, habsent, fun hclause => ?_⟩
  · rw [← hcount]
    exact s.count.sql_eq_withWhere
  · rw [← hsample]
    exact s.sample.sql_eq_withWhere
  · have hnone := mt habsent.mpr hclause
    have hsome : q.conditions ≠ [] ∨ windowPredicates q g.today ≠ [] := by
      rw [windowPredicates, ne_eq, ne_eq, List.map_eq_nil_iff]
      exact not_and_or.mp hnone
    obtain ⟨e, he, hpredicates, hholds⟩ :=
      Filter.readAs (filter_eq_ok_iff.mp hfilter).1 (yields_window hfilter) hsome
    have hfilled : filter.parts.isEmpty = false :=
      Bool.eq_false_iff.mpr (mt (isEmpty_parts_iff hfilter).mp hnone)
    have hpieces : pieces s.main.whereClause.toList = codes " WHERE " ++ filter.pieces := by
      rw [(Statement.reads_whereClause _).pieces_eq, hparts, Statement.wherePieces, hfilled]
      rfl
    have htokens : tokens (codes " WHERE " ++ filter.pieces) =
        .word "WHERE".toList :: tokens filter.pieces := rfl
    refine ⟨e, ?_, hpredicates, hholds⟩
    rw [readWhere, hpieces, htokens]
    exact he

/-- A query with a column named like a connective, a list in place of a range, a text that looks
like the rest of a clause, and a window. -/
def mixedQuery : Query :=
  .ofTable "user_info"
    [⟨"AND", .between, .list [.int 1, .int 2], .or⟩,
      ⟨"name", .like, .single (.text "O'Brien') AND (1 = 1 OR "), .or⟩,
      ⟨"age", .isIn, .single (.int 3), .and⟩]
    none (some (.day Date.first))

theorem generate_where_means_mixed :
    ∃ b, (Generator.mk 5 Date.first).generate mixedQuery .hive = .ok b ∧
      ∃ s clause, (Generator.mk 5 Date.first).statements mixedQuery .hive = .ok s ∧
        b.sql = s.main.withWhere clause ∧ b.countSql = s.count.withWhere clause ∧
        b.sampleSql = s.sample.withWhere clause ∧ WhereMeans mixedQuery Date.first clause := by
  obtain ⟨b, hb⟩ := isOk_iff_exists.mp (show ((Generator.mk 5 Date.first).generate
    mixedQuery .hive).isOk = true by decide +kernel)
  exact ⟨b, hb, generate_where_means hb⟩

end Generator

end QueryDesk.Sql
