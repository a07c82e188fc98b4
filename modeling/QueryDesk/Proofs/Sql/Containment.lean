import QueryDesk.Proofs.Sql.Generation
import QueryDesk.Proofs.Sql.Predicates

/-!
# Containment of literals

Two queries that differ in the contents of the text literals in their conditions only make the same
statements outside literals, and the literals of each statement are the texts of its query followed
by the dates of its window: no text can end its literal early.

A query is compared with another one through its hollow form, in which those contents are emptied.
Generation commutes with hollowing (`statements_hollow`), hollowing does not show outside literals
(`Statement.pieces_hollow`), and what is inside the literals is read off the layout
(`Statement.contents_pieces`).
-/

namespace QueryDesk

/-! ## Hollow queries and their texts -/

def Literal.hollow : Literal → Literal
  | .text _ => .text ""
  | l => l

/-- The text of a text literal. -/
def Literal.text? : Literal → Option String
  | .text s => some s
  | _ => none

namespace Operand

/-- The operand without the texts in it. -/
def hollow : Operand → Operand
  | range low high => .range low.hollow high.hollow
  | list items => .list (items.map Literal.hollow)
  | single value => .single value.hollow

end Operand

/-- The condition without the texts in its operand. -/
def Condition.hollow (c : Condition) : Condition := { c with value := c.value.hollow }

namespace Query

/-- The query without the texts in its conditions.  Two queries have the same hollow form exactly
if they are equal up to the contents of those texts. -/
def hollow (q : Query) : Query := { q with conditions := q.conditions.map Condition.hollow }

/-- The texts in the conditions of a query, in order. -/
def texts (q : Query) : List String :=
  q.conditions.flatMap fun c => c.value.literals.filterMap Literal.text?

end Query

namespace Sql

/-! ## Hollowing does not show outside literals -/

theorem Piece.hollow_hollow (p : Piece) : p.hollow.hollow = p.hollow := by
  cases p <;> rfl

theorem map_hollow_codes (s : String) : (codes s).map Piece.hollow = codes s := by
  rw [codes, List.map_map]
  rfl

theorem literalPieces_hollow (l : Literal) :
    literalPieces l.hollow = (literalPieces l).map Piece.hollow := by
  cases l with
  | text s => rfl
  | bool b => exact (map_hollow_codes _).symm
  | int n => exact (map_hollow_codes _).symm
  | float x => exact (map_hollow_codes _).symm

theorem map_hollow_intercalate (sep : String) (pss : List (List Piece)) :
    ((codes sep).intercalate pss).map Piece.hollow =
      (codes sep).intercalate (pss.map (List.map Piece.hollow)) := by
  induction pss with
  | nil => rfl
  | cons ps pss ih =>
    cases pss with
    | nil => simp
    | cons qs pss =>
      rw [List.map_cons] at ih ⊢
      rw [List.map_cons, List.intercalate_cons_cons, List.intercalate_cons_cons, List.map_append,
        List.map_append, ih, map_hollow_codes]

namespace Atom

/-- The atomic predicate without the texts in it. -/
def hollow : Atom → Atom
  | compare field operator value => .compare field operator value.hollow
  | within field first more => .within field first.hollow (more.map Literal.hollow)
  | between field low high => .between field low.hollow high.hollow

theorem pieces_hollow (a : Atom) : a.hollow.pieces = a.pieces.map Piece.hollow := by
  cases a with
  | compare field operator value =>
    simp only [hollow, pieces, List.map_append, map_hollow_codes, literalPieces_hollow]
  | within field first more =>
    have hitems : (first.hollow :: more.map Literal.hollow).map literalPieces =
        ((first :: more).map literalPieces).map (List.map Piece.hollow) := by
      simp [literalPieces_hollow]
    simp only [hollow, pieces, List.map_append, map_hollow_codes, map_hollow_intercalate, hitems]
  | between field low high =>
    simp only [hollow, pieces, List.map_append, map_hollow_codes, literalPieces_hollow]

end Atom

namespace Filter

/-- The filter without the texts in its conditions. -/
def hollow (f : Filter) : Filter :=
  { f with conditions := f.conditions.map fun x => (x.1, x.2.hollow) }

theorem hasOr_hollow (conditions : List (Join × Atom)) :
    hasOr (conditions.map fun x => (x.1, x.2.hollow)) = hasOr conditions := by
  rw [hasOr, ← List.map_tail, List.any_map]
  rfl

theorem chainPieces_hollow (conditions : List (Join × Atom)) :
    chainPieces (conditions.map fun x => (x.1, x.2.hollow)) =
      (chainPieces conditions).map Piece.hollow := by
  cases conditions with
  | nil => rfl
  | cons x rest =>
    simp only [List.map_cons, chainPieces, List.map_append, List.map_flatMap, List.flatMap_map,
      Atom.pieces_hollow, map_hollow_codes]

/-- Outside literals the hollow filter has the text of the filter. -/
theorem pieces_hollow (f : Filter) :
    f.hollow.pieces.map Piece.hollow = f.pieces.map Piece.hollow := by
  have hchain := chainPieces_hollow f.conditions
  have hidem : ∀ ps : List Piece, (ps.map Piece.hollow).map Piece.hollow = ps.map Piece.hollow := by
    intro ps
    rw [List.map_map]
    exact List.map_congr_left fun p _ => p.hollow_hollow
  rw [pieces, pieces, map_hollow_intercalate, map_hollow_intercalate]
  congr 1
  simp only [partPieces, hollow, List.map_append, List.isEmpty_map, hasOr_hollow, hchain]
  congr 1
  split
  · rfl
  · split <;> simp only [List.map_cons, List.map_nil, List.map_append, hidem]

end Filter

namespace Statement

/-- The statement without the texts in its conditions. -/
def hollow (s : Statement) : Statement := { s with filter := s.filter.hollow }

/-- Outside literals the hollow statement has the text of the statement. -/
theorem pieces_hollow (s : Statement) :
    s.hollow.pieces.map Piece.hollow = s.pieces.map Piece.hollow := by
  have hempty : s.filter.hollow.parts.isEmpty = s.filter.parts.isEmpty := by
    simp [Filter.isEmpty_parts, Filter.hollow]
  have hwhere : s.hollow.wherePieces.map Piece.hollow = s.wherePieces.map Piece.hollow := by
    simp only [wherePieces, hollow, hempty]
    split
    · rfl
    · rw [List.map_append, List.map_append, s.filter.pieces_hollow]
  have htail : s.hollow.tail = s.tail := rfl
  have hrest : s.hollow.restPieces.map Piece.hollow = s.restPieces.map Piece.hollow := by
    rw [restPieces, restPieces, htail, List.map_append, List.map_append, List.map_append,
      List.map_append, hwhere]
    rfl
  rw [pieces, pieces, List.map_append, List.map_append, List.map_append, List.map_append, hrest]
  rfl

end Statement

/-! ## Generation commutes with hollowing -/

theorem finite_hollow (l : Literal) : finite l.hollow = (finite l).map Literal.hollow := by
  cases l with
  | float x =>
    simp only [Literal.hollow, finite]
    split <;> rfl
  | bool b => rfl
  | int n => rfl
  | text s => rfl

theorem atom_hollow (c : Condition) : atom c.hollow = (atom c).map Atom.hollow := by
  obtain ⟨name, operator, value, join⟩ := c
  have hlist := mapM_map_comm finite_hollow
  simp only [atom, Condition.hollow]
  cases identifier .conditionField name with
  | error e => rfl
  | ok field =>
    cases value with
    | range low high =>
      cases operator <;> try rfl
      simp only [Operand.hollow, finite_hollow, bind, Except.bind, Except.map]
      cases finite low <;> cases finite high <;> rfl
    | single value =>
      simp only [Operand.hollow]
      cases operator <;> simp only [finite_hollow] <;> cases finite value <;> rfl
    | list items =>
      cases operator with
      | isIn =>
        cases items with
        | nil => rfl
        | cons first more =>
          simp only [Operand.hollow, List.map_cons, finite_hollow, hlist, bind, Except.bind]
          cases finite first with
          | error e => rfl
          | ok first => cases more.mapM finite <;> rfl
      | between =>
        rcases items with _ | ⟨low, _ | ⟨high, _ | ⟨_, _⟩⟩⟩ <;> try rfl
        simp only [Operand.hollow, List.map_cons, List.map_nil, finite_hollow, bind, Except.bind]
        cases finite low <;> cases finite high <;> rfl
      | _ => rfl

namespace Generator

variable {g : Generator} {q q' : Query} {d : Dialect}

theorem filter_hollow (g : Generator) (q : Query) :
    g.filter q.hollow = (g.filter q).map Filter.hollow := by
  have hconditions : (q.hollow.conditions.mapM fun c => do return (c.join, ← atom c)) =
      (q.conditions.mapM fun c => do return (c.join, ← atom c)).map
        (List.map fun (x : Join × Atom) => (x.1, x.2.hollow)) := by
    refine mapM_map_comm (fun c => ?_) q.conditions
    rw [atom_hollow]
    cases atom c <;> rfl
  have hwindow : q.hollow.window = q.window := rfl
  have hsource : q.hollow.source = q.source := rfl
  unfold filter
  rw [hconditions, hwindow, hsource]
  cases q.conditions.mapM fun c => do return (c.join, ← atom c) with
  | error e => rfl
  | ok conditions =>
    cases q.window with
    | none => rfl
    | some w =>
      simp only [bind, Except.bind, Except.map]
      cases identifier .dateColumn q.source.dateColumn with
      | error e => rfl
      | ok column =>
        dsimp only
        cases windowAtoms column g.today w <;> rfl

/-- The statements of the hollow query are the hollow statements of the query. -/
theorem statements_hollow (g : Generator) (q : Query) (d : Dialect) :
    g.statements q.hollow d = (g.statements q d).map fun s =>
      ⟨s.main.hollow, s.count.hollow, s.sample.hollow⟩ := by
  have hcolumns : columns q.hollow = columns q := rfl
  have horder : Generator.order q.hollow = Generator.order q := rfl
  unfold statements
  rw [filter_hollow, hcolumns, horder]
  show (do let source ← table q.source d; _) = _
  cases table q.source d with
  | error e => rfl
  | ok source =>
    cases columns q with
    | error e => rfl
    | ok cs =>
      cases g.filter q with
      | error e => rfl
      | ok filter => cases Generator.order q <;> rfl

end Generator

/-! ## What is inside the literals -/

/-- The contents of the literals among pieces. -/
def contents (ps : List Piece) : List (List Char) := ps.filterMap Piece.content?

theorem contents_append (ps qs : List Piece) : contents (ps ++ qs) = contents ps ++ contents qs :=
  List.filterMap_append

theorem contents_codes (s : String) : contents (codes s) = [] := by
  simp [contents, codes, List.filterMap_map, Piece.content?, Function.comp_def]

theorem contents_flatMap {α : Type} (f : α → List Piece) (xs : List α) :
    contents (xs.flatMap f) = xs.flatMap fun x => contents (f x) :=
  List.filterMap_flatMap

theorem contents_intercalate (sep : String) (pss : List (List Piece)) :
    contents ((codes sep).intercalate pss) = pss.flatMap contents := by
  induction pss with
  | nil => rfl
  | cons ps pss ih =>
    cases pss with
    | nil => simp
    | cons qs pss =>
      rw [List.intercalate_cons_cons, contents_append, contents_append, contents_codes, ih,
        List.append_nil]
      rfl

theorem contents_literalPieces (l : Literal) :
    contents (literalPieces l) = (l.text?.map String.toList).toList := by
  cases l with
  | text s => rfl
  | bool b => exact contents_codes _
  | int n => exact contents_codes _
  | float x => exact contents_codes _

/-- The literals of an atomic predicate, in order. -/
def Atom.literals : Atom → List Literal
  | compare _ _ value => [value]
  | within _ first more => first :: more
  | between _ low high => [low, high]

/-- The contents of the literals that are quoted. -/
def textsOf (ls : List Literal) : List (List Char) := (ls.filterMap Literal.text?).map String.toList

theorem textsOf_eq_flatMap (ls : List Literal) :
    textsOf ls = ls.flatMap fun l => contents (literalPieces l) := by
  induction ls with
  | nil => rfl
  | cons l ls ih =>
    rw [List.flatMap_cons, ← ih, contents_literalPieces]
    cases h : l.text? <;> simp [textsOf, h]

theorem Atom.contents_pieces (a : Atom) : contents a.pieces = textsOf a.literals := by
  rw [textsOf_eq_flatMap]
  cases a with
  | compare field operator value => simp [pieces, literals, contents_append, contents_codes]
  | within field first more =>
    simp [pieces, literals, contents_append, contents_codes, contents_intercalate, List.flatMap_map]
  | between field low high => simp [pieces, literals, contents_append, contents_codes]

theorem Filter.contents_pieces (f : Filter) : contents f.pieces =
    f.conditions.flatMap (fun x => textsOf x.2.literals) ++
      f.window.flatMap fun a => textsOf a.literals := by
  have hchain : contents (chainPieces f.conditions) =
      f.conditions.flatMap fun x => textsOf x.2.literals := by
    cases f.conditions with
    | nil => rfl
    | cons x rest =>
      simp [chainPieces, contents_append, contents_flatMap, contents_codes, Atom.contents_pieces]
  rw [pieces, contents_intercalate, partPieces, List.flatMap_append, List.flatMap_map]
  congr 1
  · split
    · next h => rw [List.isEmpty_iff.mp h]; rfl
    · split
      · simp [contents_append, contents_codes, hchain]
      · simp [hchain]
  · simp only [Atom.contents_pieces]

theorem Selection.contents_pieces {s : Selection}
    (h : ∀ function ∈ s.functions, '\'' ∉ function.toList) : contents s.pieces = [] := by
  cases s with
  | rowCount => exact contents_codes _
  | columns cs =>
    have hcolumn : ∀ c ∈ cs, contents c.pieces = [] := by
      intro c hc
      cases c with
      | field name => exact contents_codes _
      | aggregate function label =>
        have hquote : '\'' ∉ function.toList := h function (List.mem_filterMap.mpr ⟨_, hc, rfl⟩)
        rw [Column.pieces, (Reads.codes hquote).pieces_eq, contents_append, contents_codes,
          contents_codes]
        rfl
    cases cs with
    | nil => exact contents_codes _
    | cons c cs =>
      rw [pieces, contents_intercalate, List.flatMap_map, List.flatMap_eq_nil_iff]
      · exact hcolumn
      · exact List.cons_ne_nil _ _

theorem Statement.contents_pieces {s : Statement}
    (h : ∀ function ∈ s.selection.functions, '\'' ∉ function.toList) :
    contents s.pieces = contents s.filter.pieces := by
  have hwhere : contents s.wherePieces = contents s.filter.pieces := by
    unfold wherePieces
    split
    · next hempty =>
      rw [Filter.isEmpty_parts, Bool.and_eq_true, List.isEmpty_iff, List.isEmpty_iff] at hempty
      rw [Filter.contents_pieces, hempty.1, hempty.2]
      rfl
    · rw [contents_append, contents_codes, List.nil_append]
  have hrest : contents s.restPieces = contents s.filter.pieces := by
    rw [restPieces, contents_append, contents_append, contents_codes, contents_codes,
      List.nil_append, List.append_nil, hwhere]
  rw [pieces, contents_append, contents_append, contents_codes, Selection.contents_pieces h, hrest,
    List.nil_append, List.nil_append]

/-! ## The literals of a query -/

theorem Fits.literals_eq {field : Identifier} {o : Operator} {v : Operand} {a : Atom}
    (h : Fits field o v a) : a.literals = v.literals := by
  cases h <;> rfl

/-- The texts that the statements of a query quote: those in its conditions, in order, and then the
dates of its window. -/
def quoted (q : Query) (today : Date) : List String :=
  q.texts ++ (bounds q today).map fun bound => bound.2.text

/-- Two statements that are the same outside their literals, close every literal, and have the given
texts inside them. -/
structure SameButFor (texts texts' : List String) (s s' : String) : Prop where
  same_outline : outline s = outline s'
  both_closed : Closed s ∧ Closed s'
  first_literals : literals s = texts.map String.toList
  second_literals : literals s' = texts'.map String.toList

theorem Statement.sameButFor {s s' : Statement} (hhollow : s.hollow = s'.hollow)
    {texts texts' : List String}
    (h : ∀ function ∈ s.selection.functions, '\'' ∉ function.toList)
    (h' : ∀ function ∈ s'.selection.functions, '\'' ∉ function.toList)
    (hsound : (check s.sql).defects = []) (hsound' : (check s'.sql).defects = [])
    (hcontents : contents s.pieces = texts.map String.toList)
    (hcontents' : contents s'.pieces = texts'.map String.toList) :
    SameButFor texts texts' s.sql s'.sql := by
  have hclosed := fun f hf => closed_of_noQuote (h f hf)
  have hclosed' := fun f hf => closed_of_noQuote (h' f hf)
  have hpieces := pieces_sql hclosed
  have hpieces' := pieces_sql hclosed'
  refine ⟨?_, ⟨closed_sql hclosed hsound, closed_sql hclosed' hsound'⟩, ?_, ?_⟩
  · rw [outline, outline, hpieces, hpieces', ← s.pieces_hollow, hhollow, s'.pieces_hollow]
  · rw [← hcontents, ← hpieces]
    rfl
  · rw [← hcontents', ← hpieces']
    rfl

namespace Generator

variable {g : Generator} {q q' : Query} {d : Dialect}

/-- The literals of a filter are the texts of its query followed by the dates of its window. -/
theorem contents_filter {f : Filter} (h : g.filter q = .ok f) : contents f.pieces =
    (quoted q g.today).map String.toList := by
  obtain ⟨hconditions, hwindow⟩ := filter_eq_ok_iff.mp h
  have hbounds : f.window.flatMap (fun a => textsOf a.literals) =
      (bounds q g.today).map fun bound => bound.2.text.toList := by
    rcases hwindow with ⟨hnone, hnil⟩ | ⟨w, column, hw, -, -, hatoms⟩
    · rw [bounds, hnone, hnil]
      rfl
    · rw [bounds, hw, hatoms, List.flatMap_map]
      exact (List.map_eq_flatMap).symm
  have htexts : f.conditions.flatMap (fun x => textsOf x.2.literals) =
      q.texts.map String.toList := by
    rw [Query.texts]
    clear h hwindow hbounds
    generalize q.conditions = cs at hconditions ⊢
    generalize f.conditions = xs at hconditions ⊢
    induction hconditions with
    | nil => rfl
    | @cons c x cs xs hcx _ ih =>
      obtain ⟨field, -, -, hfits⟩ := atom_eq_ok_iff.mp hcx.2
      rw [List.flatMap_cons, List.flatMap_cons, List.map_append, ih, hfits.literals_eq]
      rfl
  rw [Filter.contents_pieces, htexts, hbounds, quoted, List.map_append, List.map_map]
  rfl

/-- What is inside the literals of each statement of a query without quotes in its functions. -/
theorem contents_statements {s : Statements} (h : g.statements q d = .ok s)
    (hquote : ∀ function ∈ q.functions, '\'' ∉ function.toList) :
    ∀ t ∈ [s.main, s.count, s.sample],
      (∀ function ∈ t.selection.functions, '\'' ∉ function.toList) ∧
      contents t.pieces = (quoted q g.today).map String.toList := by
  obtain ⟨source, cs, fields, filter, order, -, hcolumns, hfilter, -, rfl⟩ :=
    statements_eq_ok_iff.mp h
  have hcs : ∀ function ∈ (Selection.columns cs).functions, '\'' ∉ function.toList := by
    rwa [functions_columns hcolumns]
  have hrows : ∀ function ∈ Selection.rowCount.functions, '\'' ∉ function.toList := by
    intro function h; cases h
  have hcontents := contents_filter hfilter
  rintro t ht
  simp only [List.mem_cons, List.not_mem_nil, or_false] at ht
  rcases ht with rfl | rfl | rfl
  · exact ⟨hcs, (Statement.contents_pieces hcs).trans hcontents⟩
  · exact ⟨hrows, (Statement.contents_pieces hrows).trans hcontents⟩
  · exact ⟨hcs, (Statement.contents_pieces hcs).trans hcontents⟩

/-- Queries with the same hollow form have the same hollow statements. -/
theorem statements_of_hollow_eq (hsame : q.hollow = q'.hollow) {s : Statements}
    (h : g.statements q d = .ok s) : ∃ s', g.statements q' d = .ok s' ∧
      s.main.hollow = s'.main.hollow ∧ s.count.hollow = s'.count.hollow ∧
      s.sample.hollow = s'.sample.hollow := by
  have hmap := statements_hollow g q' d
  rw [← hsame, statements_hollow, h] at hmap
  cases hs' : g.statements q' d with
  | error e => rw [hs'] at hmap; cases hmap
  | ok s' =>
    rw [hs'] at hmap
    obtain ⟨hmain, hcount, hsample⟩ := Statements.mk.inj (Except.ok.inj hmap)
    exact ⟨s', rfl, hmain, hcount, hsample⟩

theorem functions_of_hollow_eq (hsame : q.hollow = q'.hollow) : q.functions = q'.functions := by
  show q.hollow.functions = q'.hollow.functions
  rw [hsame]

/-- Generation does not depend on the texts in the conditions. -/
theorem generate_ok_of_hollow_eq (hsame : q.hollow = q'.hollow)
    (hquote : ∀ function ∈ q.functions, '\'' ∉ function.toList) {b : SqlBundle}
    (h : g.generate q d = .ok b) : ∃ b', g.generate q' d = .ok b' := by
  have hclosed : ∀ function ∈ q.functions, Closed function := fun f hf =>
    closed_of_noQuote (hquote f hf)
  obtain ⟨s, hs, hbalance, -⟩ := (generate_eq_ok_iff_of_closed hclosed).mp h
  obtain ⟨s', hs', -⟩ := statements_of_hollow_eq hsame hs
  rw [functions_of_hollow_eq hsame] at hbalance hclosed
  exact ⟨_, (generate_eq_ok_iff_of_closed hclosed).mpr ⟨s', hs', hbalance, rfl⟩⟩

/-- Queries that differ in the texts of their conditions only are generated alike: for both or for
neither, and then with the same three statements outside literals and with the texts of each query,
decoded, inside them. -/
theorem generate_contains_literals (hsame : q.hollow = q'.hollow)
    (hquote : ∀ function ∈ q.functions, '\'' ∉ function.toList) :
    ((∃ b, g.generate q d = .ok b) ↔ ∃ b', g.generate q' d = .ok b') ∧
    ∀ b b', g.generate q d = .ok b → g.generate q' d = .ok b' →
      SameButFor (quoted q g.today) (quoted q' g.today) b.sql b'.sql ∧
      SameButFor (quoted q g.today) (quoted q' g.today) b.countSql b'.countSql ∧
      SameButFor (quoted q g.today) (quoted q' g.today) b.sampleSql b'.sampleSql := by
  have hquote' : ∀ function ∈ q'.functions, '\'' ∉ function.toList := by
    rwa [← functions_of_hollow_eq hsame]
  constructor
  · constructor
    · rintro ⟨b, hb⟩
      exact generate_ok_of_hollow_eq hsame hquote hb
    · rintro ⟨b, hb⟩
      exact generate_ok_of_hollow_eq hsame.symm hquote' hb
  · intro b b' hb hb'
    obtain ⟨s, hs, ⟨hmain, hcount, hsample⟩, rfl⟩ := generate_eq_ok_iff.mp hb
    obtain ⟨s', hs', ⟨hmain', hcount', hsample'⟩, rfl⟩ := generate_eq_ok_iff.mp hb'
    obtain ⟨_, hs'', hhollow⟩ := statements_of_hollow_eq hsame hs
    obtain rfl := Except.ok.inj (hs'.symm.trans hs'')
    have hin := contents_statements hs hquote
    have hin' := contents_statements hs' hquote'
    have hone : ∀ t ∈ [s.main, s.count, s.sample], ∀ t' ∈ [s'.main, s'.count, s'.sample],
        t.hollow = t'.hollow → (check t.sql).defects = [] → (check t'.sql).defects = [] →
        SameButFor (quoted q g.today) (quoted q' g.today) t.sql t'.sql := by
      intro t ht t' ht' heq hsound hsound'
      obtain ⟨hfunctions, hcontents⟩ := hin t ht
      obtain ⟨hfunctions', hcontents'⟩ := hin' t' ht'
      exact Statement.sameButFor heq hfunctions hfunctions' hsound hsound' hcontents hcontents'
    exact ⟨hone s.main (by simp) s'.main (by simp) hhollow.1 hmain hmain',
      hone s.count (by simp) s'.count (by simp) hhollow.2.1 hcount hcount',
      hone s.sample (by simp) s'.sample (by simp) hhollow.2.2 hsample hsample'⟩

/-- The query for the users of a name on the first day of the calendar. -/
def usersNamed (name : String) : Query :=
  .ofTable "user_info" [⟨"name", .eq, .single (.text name), .and⟩] none (some (.day Date.first))

/-- A name that tries to leave its literal. -/
def leavingName : String := "O'Brien') OR (1=1; --"

theorem generate_contains_name :
    (usersNamed leavingName).hollow = (usersNamed "x").hollow ∧
    (∀ function ∈ (usersNamed leavingName).functions, '\'' ∉ function.toList) ∧
    ∃ b b', (Generator.mk 5 Date.first).generate (usersNamed leavingName) .hive = .ok b ∧
      (Generator.mk 5 Date.first).generate (usersNamed "x") .hive = .ok b' ∧
      SameButFor [leavingName, Date.first.text] ["x", Date.first.text] b.sql b'.sql := by
  obtain ⟨b, hb⟩ := isOk_iff_exists.mp (show ((Generator.mk 5 Date.first).generate
    (usersNamed leavingName) .hive).isOk = true by decide +kernel)
  have hsame : (usersNamed leavingName).hollow = (usersNamed "x").hollow := rfl
  have hquote : ∀ function ∈ (usersNamed leavingName).functions, '\'' ∉ function.toList :=
    fun _ h => nomatch h
  obtain ⟨hboth, hall⟩ :=
    generate_contains_literals (g := ⟨5, Date.first⟩) (d := .hive) hsame hquote
  obtain ⟨b', hb'⟩ := hboth.mp ⟨b, hb⟩
  exact ⟨hsame, hquote, b, b', hb, hb', (hall b b' hb hb').1⟩

end Generator

end Sql

end QueryDesk
