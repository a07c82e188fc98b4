import QueryDesk.Proofs.Calendar.DayNumber
import QueryDesk.Proofs.Demands
import QueryDesk.Proofs.Sql.Balance
import QueryDesk.Proofs.Sql.Generation
import QueryDesk.Proofs.Sql.Predicates

/-!
# Well-formed queries

What a query has to satisfy to be generated (`Query.WellFormed`), and the same once more as a list
in the order of checking, each demand with its fault (`demands`).  Every step of the generator
checks its part of the list (`checks_table` to `checks_generate`), so generation succeeds exactly on
well-formed queries and otherwise reports the first demand that is not met
(`generate_succeeds_iff_wellFormed`).
-/

namespace QueryDesk

open Sql

/-! ## What is demanded -/

/-- Whether an operand fits an operator: IN takes one literal or a list that is not empty, BETWEEN
a range or two literals, any other operator one literal. -/
def Operator.Takes : Operator → Operand → Prop
  | .isIn, .list items => items ≠ []
  | .between, .range _ _ => True
  | .between, .list items => items.length = 2
  | .between, .single _ => False
  | _, .single _ => True
  | _, _ => False

/-- A query that can be generated in a dialect on a day. -/
structure Query.WellFormed (q : Query) (d : Dialect) (today : Date) : Prop where
  table : isIdentifier q.source.table = true
  database : d = .hive ∨ d = .spark → ∀ name ∈ q.source.database, isIdentifier name = true
  labels : ∀ a ∈ q.aggregation, ∀ x ∈ a.aggregates, isIdentifier x.label = true
  groupBy : ∀ a ∈ q.aggregation, ∀ field ∈ a.groupBy, isIdentifier field = true
  conditions : ∀ c ∈ q.conditions, isIdentifier c.field = true ∧ c.operator.Takes c.value ∧
    ∀ l ∈ c.value.literals, l.Finite
  dateColumn : q.window ≠ none → isIdentifier q.source.dateColumn = true
  window : ∀ days, q.window = some (.relative days) →
    Date.first.number ≤ today.number - days.toNat
  sortBy : ∀ field ∈ q.output.sortBy, isIdentifier field = true
  functions : Balanced (q.functions.flatMap String.toList)

namespace Sql

/-- The name is a plain identifier. -/
def plainName (role : Role) (name : String) : Demand SqlFault :=
  ⟨isIdentifier name = true, .invalidIdentifier role.name name⟩

/-- Doubles are finite. -/
def literalDemands : Literal → List (Demand SqlFault)
  | .float x => [⟨x.isFinite = true, .nonFinite (String.ofList (Decimal.plainText x))⟩]
  | _ => []

/-- The fault of an operand that does not fit. -/
def misfit (c : Condition) : SqlFault :=
  .misfit c.operator.sql c.field (c.operator ≠ .isIn ∧ c.operator ≠ .between)

def conditionDemands (c : Condition) : List (Demand SqlFault) :=
  plainName .conditionField c.field :: ⟨c.operator.Takes c.value, misfit c⟩ ::
    c.value.literals.flatMap literalDemands

def sourceDemands (source : SourceRef) (d : Dialect) : List (Demand SqlFault) :=
  plainName .table source.table ::
    if d.qualifiesTables then source.database.toList.map (plainName .database) else []

def aggregationDemands (a : Aggregation) : List (Demand SqlFault) :=
  a.aggregates.map (fun x => plainName .label x.label) ++ a.groupBy.map (plainName .groupByField)

/-- The window, if it is relative, starts in the calendar. -/
def startDemands (today : Date) : Window → List (Demand SqlFault)
  | .relative days =>
    [⟨Date.first.number ≤ today.number - days.toNat, .beforeCalendar days.toNat⟩]
  | .absolute _ _ => []

def windowDemands (q : Query) (today : Date) : List (Demand SqlFault) :=
  match q.window with
  | some w => plainName .dateColumn q.source.dateColumn :: startDemands today w
  | none => []

/-- The two statements that hold the aggregate functions have balanced parentheses. -/
def balanceDemand (q : Query) : Demand SqlFault :=
  ⟨Balanced (q.functions.flatMap String.toList),
    .malformed ["main: unbalanced parentheses", "sample: unbalanced parentheses"]⟩

/-- What the parts of the statements of a query demand, in the order of checking. -/
def partDemands (q : Query) (d : Dialect) (today : Date) : List (Demand SqlFault) :=
  sourceDemands q.source d ++ (q.aggregation.toList.flatMap aggregationDemands ++
    (q.conditions.flatMap conditionDemands ++ windowDemands q today ++
      q.output.sortBy.toList.map (plainName .sortField)))

/-- What a query has to satisfy to be generated in a dialect on a day, in the order of checking. -/
def demands (q : Query) (d : Dialect) (today : Date) : List (Demand SqlFault) :=
  partDemands q d today ++ [balanceDemand q]

/-! ## The demands are those of well-formed queries -/

theorem qualifiesTables_iff (d : Dialect) : d.qualifiesTables = true ↔ d = .hive ∨ d = .spark := by
  cases d <;> simp [Dialect.qualifiesTables]

theorem forall_literalDemands_iff {l : Literal} :
    (∀ y ∈ literalDemands l, y.met) ↔ l.Finite := by
  cases l <;> simp [literalDemands, Literal.Finite]

theorem forall_conditionDemands_iff {c : Condition} : (∀ y ∈ conditionDemands c, y.met) ↔
    isIdentifier c.field = true ∧ c.operator.Takes c.value ∧ ∀ l ∈ c.value.literals, l.Finite := by
  rw [conditionDemands, List.forall_mem_cons, List.forall_mem_cons, List.forall_mem_flatMap]
  simp only [forall_literalDemands_iff, plainName]

theorem forall_sourceDemands_iff {source : SourceRef} {d : Dialect} :
    (∀ y ∈ sourceDemands source d, y.met) ↔ isIdentifier source.table = true ∧
      (d = .hive ∨ d = .spark → ∀ name ∈ source.database, isIdentifier name = true) := by
  rw [sourceDemands, List.forall_mem_cons, ← qualifiesTables_iff]
  cases d.qualifiesTables <;> simp [plainName]

theorem forall_aggregationDemands_iff {a : Aggregation} : (∀ y ∈ aggregationDemands a, y.met) ↔
    (∀ x ∈ a.aggregates, isIdentifier x.label = true) ∧
      ∀ field ∈ a.groupBy, isIdentifier field = true := by
  rw [aggregationDemands, List.forall_mem_append, List.forall_mem_map, List.forall_mem_map]
  rfl

theorem forall_windowDemands_iff {q : Query} {today : Date} :
    (∀ y ∈ windowDemands q today, y.met) ↔
      (q.window ≠ none → isIdentifier q.source.dateColumn = true) ∧
      ∀ days, q.window = some (.relative days) →
        Date.first.number ≤ today.number - days.toNat := by
  unfold windowDemands
  cases q.window with
  | none => simp
  | some w => cases w <;> simp [startDemands, plainName]

/-- A query is well-formed exactly if it meets all demands. -/
theorem forall_demands_iff {q : Query} {d : Dialect} {today : Date} :
    (∀ y ∈ demands q d today, y.met) ↔ q.WellFormed d today := by
  simp only [demands, partDemands, List.forall_mem_append, List.forall_mem_flatMap,
    forall_sourceDemands_iff, forall_aggregationDemands_iff, forall_conditionDemands_iff,
    forall_windowDemands_iff, List.forall_mem_map, List.forall_mem_singleton, Option.mem_toList,
    plainName, balanceDemand]
  constructor
  · rintro ⟨⟨⟨htable, hdatabase⟩, haggregation, ⟨hconditions, hcolumn, hwindow⟩, hsort⟩, hbalance⟩
    exact ⟨htable, hdatabase, fun a ha => (haggregation a ha).1, fun a ha => (haggregation a ha).2,
      hconditions, hcolumn, hwindow, hsort, hbalance⟩
  · intro h
    exact ⟨⟨⟨h.table, h.database⟩, fun a ha => ⟨h.labels a ha, h.groupBy a ha⟩,
      ⟨h.conditions, h.dateColumn, h.window⟩, h.sortBy⟩, h.functions⟩

/-! ## Every step checks its demands -/

/-- Any operator but IN and BETWEEN takes one literal. -/
theorem Operator.takes_iff_single {o : Operator} (ho : o ≠ .isIn ∧ o ≠ .between) {v : Operand} :
    o.Takes v ↔ ∃ l, v = .single l := by
  obtain ⟨hin, hbetween⟩ := ho
  cases o <;> first | contradiction | cases v <;> simp [Operator.Takes]

theorem checks_identifier (role : Role) (name : String) :
    Checks (identifier role name) [plainName role name] :=
  Checks.dite _ _

theorem checks_identifiers (role : Role) (names : List String) :
    Checks (names.mapM (identifier role)) (names.map (plainName role)) := by
  rw [List.map_eq_flatMap]
  exact Checks.mapM fun name _ => checks_identifier role name

theorem checks_finite (l : Literal) : Checks (finite l) (literalDemands l) := by
  cases l with
  | float x =>
    rw [finite, ← dite_eq_ite]
    exact Checks.dite _ _
  | bool b => exact Checks.ok _
  | int n => exact Checks.ok _
  | text s => exact Checks.ok _

theorem checks_finites (ls : List Literal) :
    Checks (ls.mapM finite) (ls.flatMap literalDemands) :=
  Checks.mapM fun l _ => checks_finite l

theorem checks_pair {α : Type} (low high : Literal) (f : Literal → Literal → α) :
    Checks (do return f (← finite low) (← finite high)) ([low, high].flatMap literalDemands) := by
  rw [List.flatMap_cons, List.flatMap_singleton]
  exact (checks_finite low).bind fun l _ => (checks_finite high).map (f := f l)

/-- A condition is refused for its field, then for the fit of its operand, then for a literal. -/
theorem checks_atom (c : Condition) : Checks (atom c) (conditionDemands c) := by
  obtain ⟨name, operator, value, join⟩ := c
  unfold atom conditionDemands
  refine (checks_identifier .conditionField name).bind (r := _ :: _) fun field _ => ?_
  -- the cases of the generator, each with its operand known to fit or known not to
  dsimp only
  split
  · next first more =>
    refine Checks.cons (List.cons_ne_nil first more) ?_
    exact (checks_finite first).bind fun l _ => (checks_finites more).map
  · next value =>
    refine Checks.cons trivial ?_
    rw [Operand.literals, List.flatMap_singleton]
    exact (checks_finite value).map
  · next low high => exact (checks_pair low high (Atom.between field)).cons trivial
  · next low high => exact (checks_pair low high (Atom.between field)).cons rfl
  · next hlist hsingle =>
    refine Checks.error (y := ⟨_, misfit ⟨name, .isIn, value, join⟩⟩) fun htakes => ?_
    cases value with
    | range low high => exact htakes
    | single value => exact hsingle value rfl
    | list items =>
      obtain ⟨first, more, rfl⟩ := List.exists_cons_of_ne_nil htakes
      exact hlist first more rfl
  · next hrange hlist =>
    refine Checks.error (y := ⟨_, misfit ⟨name, .between, value, join⟩⟩) fun htakes => ?_
    cases value with
    | range low high => exact hrange low high rfl
    | single value => exact htakes
    | list items =>
      obtain ⟨low, high, rfl⟩ := List.length_eq_two.mp htakes
      exact hlist low high rfl
  · next value hin hbetween =>
    refine Checks.cons ((Operator.takes_iff_single ⟨hin, hbetween⟩).mpr ⟨value, rfl⟩) ?_
    rw [Operand.literals, List.flatMap_singleton]
    exact (checks_finite value).map
  · next hin hbetween hsingle _ _ _ _ =>
    have hnot : ¬operator.Takes value := fun htakes => by
      obtain ⟨l, hl⟩ := (Operator.takes_iff_single ⟨hin, hbetween⟩).mp htakes
      exact hsingle l hl
    have hfault : misfit ⟨name, operator, value, join⟩ = .misfit operator.sql name true :=
      congrArg _ (decide_eq_true ⟨hin, hbetween⟩)
    rw [← hfault]
    exact Checks.error (y := ⟨operator.Takes value, misfit ⟨name, operator, value, join⟩⟩) hnot

theorem checks_table (source : SourceRef) (d : Dialect) :
    Checks (Generator.table source d) (sourceDemands source d) := by
  unfold Generator.table sourceDemands
  refine (checks_identifier .table source.table).bind (r := ite _ _ _) fun name _ => ?_
  cases source.database with
  | none =>
    rw [Option.toList_none, List.map_nil, ite_self]
    exact Checks.ok _
  | some database =>
    dsimp only
    split
    · exact (checks_identifier .database database).map
    · exact Checks.ok _

theorem checks_columns (q : Query) :
    Checks (Generator.columns q) (q.aggregation.toList.flatMap aggregationDemands) := by
  unfold Generator.columns
  cases q.aggregation with
  | none => exact Checks.ok _
  | some a =>
    have haggregates : Checks (a.aggregates.mapM fun x => do
        return Column.aggregate x.function (← identifier .label x.label))
        (a.aggregates.map fun x => plainName .label x.label) := by
      rw [List.map_eq_flatMap]
      exact Checks.mapM fun x _ => (checks_identifier .label x.label).map
    rw [Option.toList_some, List.flatMap_singleton]
    exact haggregates.bind fun cs _ => (checks_identifiers .groupByField a.groupBy).map

theorem checks_windowAtoms (column : Identifier) (today : Date) (w : Window) :
    Checks (windowAtoms column today w) (startDemands today w) := by
  have hstarts : Starts today w → ∃ atoms, windowAtoms column today w = .ok atoms := fun h =>
    ⟨_, windowAtoms_eq_ok_iff.mpr ⟨h, rfl⟩⟩
  cases w with
  | relative days =>
    have hbefore := Date.minusDays?_eq_none_iff (d := today) (n := days.toNat)
    cases hstart : today.minusDays? days.toNat with
    | some start =>
      rw [hstart] at hbefore
      obtain ⟨atoms, hatoms⟩ := hstarts fun _ h => ⟨start, Window.relative.inj h ▸ hstart⟩
      rw [hatoms]
      exact (Checks.ok atoms).cons (by simpa using hbefore)
    | none =>
      have hmet := Int.not_le.mpr (hbefore.mp hstart)
      simp only [windowAtoms, hstart]
      exact Checks.error (y := ⟨_, SqlFault.beforeCalendar days.toNat⟩) hmet
  | absolute start stop =>
    obtain ⟨atoms, hatoms⟩ := hstarts fun _ h => Window.noConfusion h
    rw [hatoms]
    exact Checks.ok atoms

theorem checks_filter (g : Generator) (q : Query) :
    Checks (g.filter q) (q.conditions.flatMap conditionDemands ++ windowDemands q g.today) := by
  have hconditions : Checks (q.conditions.mapM fun c => do return (c.join, ← atom c))
      (q.conditions.flatMap conditionDemands) := Checks.mapM fun c _ => (checks_atom c).map
  unfold Generator.filter windowDemands
  refine hconditions.bind fun xs _ => ?_
  cases q.window with
  | none => exact Checks.ok _
  | some w =>
    refine (checks_identifier .dateColumn q.source.dateColumn).bind (r := startDemands _ _) ?_
    exact fun column _ => (checks_windowAtoms column g.today w).map

theorem checks_order (q : Query) :
    Checks (Generator.order q) (q.output.sortBy.toList.map (plainName .sortField)) := by
  unfold Generator.order
  cases q.output.sortBy with
  | none => exact Checks.ok _
  | some field => exact (checks_identifier .sortField field).map

theorem checks_statements (g : Generator) (q : Query) (d : Dialect) :
    Checks (g.statements q d) (partDemands q d g.today) := by
  unfold Generator.statements
  refine (checks_table q.source d).bind fun source _ => ?_
  refine (checks_columns q).bind fun columns _ => ?_
  refine (checks_filter g q).bind fun filter _ => ?_
  exact (checks_order q).map

/-! ## The finished statements -/

/-- The functions of a query without quotes are balanced as the scanner sees them exactly if they
are balanced. -/
theorem functions_balanced_iff {q : Query}
    (hquote : ∀ function ∈ q.functions, '\'' ∉ function.toList) :
    balanceOf 0 (q.functions.flatMap fun function => pieces function.toList) = .ended 0 false ↔
      Balanced (q.functions.flatMap String.toList) := by
  have hpieces : (q.functions.flatMap fun function => pieces function.toList) =
      (q.functions.flatMap String.toList).map .code := by
    rw [List.map_flatMap]
    exact List.flatMap_congr fun function hf => (Reads.codes (hquote function hf)).pieces_eq
  rw [hpieces]
  have hclosed : ∀ t, Piece.unclosed t ∉ (q.functions.flatMap String.toList).map Piece.code := by
    simp
  have hbalanced := balanced_iff ((q.functions.flatMap String.toList).map Piece.code)
  rw [outside_codes] at hbalanced
  rw [← hbalanced]
  refine ⟨fun h => ⟨false, h⟩, fun ⟨inLiteral, h⟩ => ?_⟩
  cases inLiteral with
  | false => exact h
  | true => exact absurd h (balanceOf_ne_unclosed hclosed 0 0)

/-- Unbalanced functions are found in the two statements that hold them. -/
theorem defects_of_unbalanced {g : Generator} {q : Query} {d : Dialect} {s : Statements}
    (hquote : ∀ function ∈ q.functions, '\'' ∉ function.toList) (hs : g.statements q d = .ok s)
    (hunbalanced : ¬Balanced (q.functions.flatMap String.toList)) :
    Generator.defects s.main.sql s.count.sql s.sample.sql =
      ["main: unbalanced parentheses", "sample: unbalanced parentheses"] := by
  obtain ⟨source, cs, fields, filter, order, -, hcolumns, -, -, rfl⟩ :=
    Generator.statements_eq_ok_iff.mp hs
  have hclosed : ∀ function ∈ (Selection.columns cs).functions, Closed function := by
    rw [Generator.functions_columns hcolumns]
    exact fun function hf => closed_of_noQuote (hquote function hf)
  have hopen : ∀ l, balanceOf 0 (Selection.columns cs).functionPieces ≠ .ended 0 l := by
    intro l heq
    cases l with
    | true => exact balanceOf_ne_unclosed (Selection.functionPieces_closed hclosed) 0 0 heq
    | false =>
      rw [Generator.functionPieces_columns hcolumns] at heq
      exact hunbalanced ((functions_balanced_iff hquote).mp heq)
  have hdefects : ∀ t : Statement, t.selection = .columns cs →
      (check t.sql).defects = [.unbalanced] := by
    intro t ht
    rw [check_defects, Statement.balance_sql (ht ▸ hclosed), ht]
    unfold Balance.defects
    split
    · next l heq => exact absurd heq (hopen l)
    · rfl
  have hcount : ∀ t : Statement, t.selection = .rowCount → (check t.sql).defects = [] := by
    intro t ht
    have hrows : ∀ function ∈ t.selection.functions, Closed function := by
      rw [ht]
      exact fun function hf => nomatch hf
    rw [check_defects, Statement.balance_sql hrows, ht]
    rfl
  have hmain := hdefects ⟨.columns cs, source, filter, fields, order, q.output.limit⟩ rfl
  have hrows := hcount ⟨.rowCount, source, filter, [], none, none⟩ rfl
  have hsample := hdefects ⟨.columns cs, source, filter, fields, none, some g.sampleSize⟩ rfl
  simp only [Generator.defects, List.flatMap_cons, List.flatMap_nil, hmain, hrows, hsample]
  decide

/-- Balanced functions leave nothing to find. -/
theorem defects_of_balanced {g : Generator} {q : Query} {d : Dialect} {s : Statements}
    (hquote : ∀ function ∈ q.functions, '\'' ∉ function.toList) (hs : g.statements q d = .ok s)
    (hbalanced : Balanced (q.functions.flatMap String.toList)) :
    Generator.defects s.main.sql s.count.sql s.sample.sql = [] := by
  have hclosed : ∀ function ∈ q.functions, Closed function := fun function hf =>
    closed_of_noQuote (hquote function hf)
  have hok := (Generator.generate_eq_ok_iff_of_closed hclosed).mpr
    ⟨s, hs, (functions_balanced_iff hquote).mpr hbalanced, rfl⟩
  obtain ⟨s', hs', hdefects, -⟩ := Generator.generate_eq_ok_iff.mp hok
  obtain rfl := Except.ok.inj (hs.symm.trans hs')
  exact Generator.defects_eq_nil_iff.mpr hdefects

/-- The generator checks the parts of the statements and then the balance of the functions. -/
theorem checks_generate (g : Generator) (q : Query) (d : Dialect)
    (hquote : ∀ function ∈ q.functions, '\'' ∉ function.toList) :
    Checks (g.generate q d) (demands q d g.today) := by
  unfold Generator.generate
  refine (checks_statements g q d).bind fun s hs => ?_
  by_cases hbalanced : Balanced (q.functions.flatMap String.toList)
  · simp only [defects_of_balanced hquote hs hbalanced]
    exact (Checks.ok _).cons (y := balanceDemand q) hbalanced
  · simp only [defects_of_unbalanced hquote hs hbalanced]
    exact Checks.error (y := balanceDemand q) hbalanced

/-- Of the queries without quotes in their functions exactly the well-formed ones are generated,
without warnings; of any other the first demand that is not met is reported. -/
theorem generate_succeeds_iff_wellFormed {g : Generator} {q : Query} {d : Dialect}
    (hquote : ∀ function ∈ q.functions, '\'' ∉ function.toList) :
    ((∃ b, g.generate q d = .ok b) ↔ q.WellFormed d g.today) ∧
      (∀ b, g.generate q d = .ok b → b.warnings = []) ∧
      ∀ fault, g.generate q d = .error fault ↔ FirstUnmet (demands q d g.today) fault := by
  have hchecks := checks_generate g q d hquote
  refine ⟨?_, fun b hb => ?_, hchecks⟩
  · rw [hchecks.exists_ok_iff, forall_demands_iff]
  · have hclosed : ∀ function ∈ q.functions, Closed function := fun function hf =>
      closed_of_noQuote (hquote function hf)
    obtain ⟨s, -, -, rfl⟩ := (Generator.generate_eq_ok_iff_of_closed hclosed).mp hb
    rfl

/-- A query of the orders of the last week in two cities, counted by city; one of the cities has a
parenthesis in its name. -/
def weekQuery : Query :=
  .ofTable "order_info" [⟨"city", .isIn, .list [.text "Rome", .text "Lodi)"], .and⟩]
    (some ⟨["city"], [⟨"n", "COUNT(DISTINCT (id))"⟩]⟩) (some (.relative 7))

/-- A query whose grouping field, condition and aggregate function are all at fault. -/
def faultyQuery : Query :=
  .ofTable "order_info" [⟨"age", .between, .single (.int 3), .and⟩]
    (some ⟨["home city"], [⟨"n", "COUNT)("⟩]⟩) none

theorem weekQuery_wellFormed : weekQuery.WellFormed .hive ⟨2024, 3, 15, by decide⟩ where
  table := by decide
  database := fun _ => by decide
  labels := by decide
  groupBy := by decide
  conditions := by
    intro c hc
    rw [List.mem_singleton.mp hc]
    exact ⟨by decide, List.cons_ne_nil _ _, by simp [Operand.literals, Literal.Finite]⟩
  dateColumn := fun _ => by decide
  window := by
    rintro days ⟨⟩
    decide
  sortBy := by decide
  functions := by decide

theorem generate_succeeds_iff_wellFormed_orders :
    (∀ function ∈ weekQuery.functions, '\'' ∉ function.toList) ∧
      (∃ b, (Generator.mk 5 ⟨2024, 3, 15, by decide⟩).generate weekQuery .hive = .ok b) ∧
      (∀ function ∈ faultyQuery.functions, '\'' ∉ function.toList) ∧
      FirstUnmet (demands faultyQuery .hive ⟨2024, 3, 15, by decide⟩)
        (.invalidIdentifier "group-by field" "home city") := by
  have hweek : ∀ function ∈ weekQuery.functions, '\'' ∉ function.toList := by decide
  have hfaulty : ∀ function ∈ faultyQuery.functions, '\'' ∉ function.toList := by decide
  have herror : (Generator.mk 5 ⟨2024, 3, 15, by decide⟩).generate faultyQuery .hive =
      .error (.invalidIdentifier "group-by field" "home city") := by rfl
  refine ⟨hweek, ?_, hfaulty, ?_⟩
  · exact (generate_succeeds_iff_wellFormed hweek).1.mpr weekQuery_wellFormed
  · exact ((generate_succeeds_iff_wellFormed hfaulty).2.2 _).mp herror

end Sql

end QueryDesk
