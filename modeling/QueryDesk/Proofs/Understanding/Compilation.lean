import QueryDesk.Proofs.Calendar.DayNumber
import QueryDesk.Proofs.Understanding.Confidence
import QueryDesk.Proofs.Understanding.Phrases

/-!
# Compiled requests can be generated

Every request compiles, whatever the model answers, and what it compiles to is within the reach of
the generator: names out of a plain catalog, conditions and aggregates out of the tables, a sort
field that is the label of an aggregate.  The one thing that can go wrong is a relative window that
reaches before the first day of the calendar (`compile_generates`).
-/

namespace QueryDesk

open Sql

/-! ## Sources -/

/-- An entry whose names are plain identifiers. -/
structure SourceEntry.Plain (e : SourceEntry) : Prop where
  table : isIdentifier e.table = true
  database : ∀ database ∈ e.database, isIdentifier database = true
  dateColumn : isIdentifier e.dateColumn = true

def Catalog.Plain (c : Catalog) : Prop := ∀ e ∈ c.fallback :: c.entries, e.Plain

theorem Catalog.resolve_mem (c : Catalog) (entity : Option String) (text : String) :
    ∃ e ∈ c.fallback :: c.entries, c.resolve entity text = e.toRef := by
  unfold resolve resolveEntry
  dsimp only
  cases hfind : c.entries.find? fun e =>
      e.isNamedIn (Text.lower (entity.getD "")) || e.isNamedIn (Text.lower text) with
  | none => exact ⟨c.fallback, List.mem_cons_self, rfl⟩
  | some e => exact ⟨e, List.mem_cons_of_mem _ (List.mem_of_find?_eq_some hfind), rfl⟩

theorem SourceEntry.Plain.exists_table {e : SourceEntry} (h : e.Plain) (d : Dialect) :
    ∃ t, Generator.table e.toRef d = .ok t := by
  obtain ⟨name, keywords, engine, table, database, path, dateColumn⟩ := e
  have htable : identifier .table table = .ok ⟨table, h.table⟩ := identifier_of_plain h.table
  unfold Generator.table
  simp only [toRef, bind_eq_ok]
  cases database with
  | none => exact ⟨_, _, htable, rfl⟩
  | some database =>
    have hdatabase : identifier .database database = .ok ⟨database, h.database database rfl⟩ :=
      identifier_of_plain (h.database database rfl)
    cases d.qualifiesTables with
    | false => exact ⟨_, _, htable, rfl⟩
    | true => exact ⟨_, _, htable, bind_eq_ok.mpr ⟨_, hdatabase, rfl⟩⟩

/-! ## Queries within reach of the generator -/

/-- A query with plain names whose conditions and aggregation come out of the tables. -/
structure Query.Tabled (q : Query) : Prop where
  source : ∃ e : SourceEntry, e.Plain ∧ q.source = e.toRef
  conditions : ∃ lowered, q.conditions = Rules.conditions lowered
  aggregation : ∀ a ∈ q.aggregation, Rules.Tabled a
  sortBy : ∀ field ∈ q.output.sortBy, isIdentifier field = true

namespace Query.Tabled

variable {q : Query} (h : q.Tabled)

include h

theorem exists_columns : ∃ columns, Generator.columns q = .ok columns := by
  unfold Generator.columns
  cases hagg : q.aggregation with
  | none => exact ⟨_, rfl⟩
  | some a => exact (h.aggregation a hagg).exists_grouping

theorem exists_order : ∃ order, Generator.order q = .ok order := by
  unfold Generator.order
  cases hsort : q.output.sortBy with
  | none => exact ⟨_, rfl⟩
  | some field =>
    exact ⟨_, bind_eq_ok.mpr ⟨_, identifier_of_plain (h.sortBy field hsort), rfl⟩⟩

theorem exists_conditions : ∃ xs : List (Join × Atom),
    (q.conditions.mapM fun c => do return (c.join, ← atom c)) = .ok xs := by
  obtain ⟨lowered, hconditions⟩ := h.conditions
  refine exists_mapM_eq_ok fun c hc => ?_
  obtain ⟨a, ha⟩ := Rules.exists_atom (hconditions ▸ hc)
  exact ⟨_, bind_eq_ok.mpr ⟨a, ha, rfl⟩⟩

theorem noQuote : ∀ function ∈ q.functions, '\'' ∉ function.toList := by
  unfold Query.functions
  cases hagg : q.aggregation with
  | none => intro _ hf; cases hf
  | some a =>
    intro function hf
    obtain ⟨x, hx, rfl⟩ := List.mem_map.mp hf
    exact (h.aggregation a hagg).noQuote hx

/-- The parentheses of the aggregate functions balance. -/
theorem balanced :
    balanceOf 0 (q.functions.flatMap fun function => pieces function.toList) = .ended 0 false := by
  have hneutral : ∀ fs : List String, (∀ f ∈ fs, '\'' ∉ f.toList ∧ Neutral (codes f)) →
      balanceOf 0 (fs.flatMap fun f => pieces f.toList) = .ended 0 false := by
    intro fs
    induction fs with
    | nil => intro _; rfl
    | cons f fs ih =>
      intro hfs
      obtain ⟨hquote, hf⟩ := hfs f List.mem_cons_self
      rw [List.flatMap_cons, (Reads.codes hquote).pieces_eq, hf]
      exact ih fun f hf => hfs f (List.mem_cons_of_mem _ hf)
  refine hneutral _ fun f hf => ⟨h.noQuote f hf, ?_⟩
  unfold Query.functions at hf
  cases hagg : q.aggregation with
  | none => rw [hagg] at hf; cases hf
  | some a =>
    rw [hagg] at hf
    obtain ⟨x, hx, rfl⟩ := List.mem_map.mp hf
    exact (h.aggregation a hagg).neutral hx

/-- The filter of such a query: it exists unless its window does not start in the calendar. -/
theorem exists_filter (g : Generator)
    (hstarts : ∀ w, q.window = some w → Starts g.today w) : ∃ f, g.filter q = .ok f := by
  obtain ⟨xs, hxs⟩ := h.exists_conditions
  obtain ⟨e, he, hsource⟩ := h.source
  have hcolumn : identifier .dateColumn e.dateColumn = .ok ⟨e.dateColumn, he.dateColumn⟩ :=
    identifier_of_plain he.dateColumn
  unfold Generator.filter
  cases hw : q.window with
  | none => exact ⟨_, bind_eq_ok.mpr ⟨xs, hxs, rfl⟩⟩
  | some w =>
    have hcolumn' : identifier .dateColumn q.source.dateColumn =
        .ok ⟨e.dateColumn, he.dateColumn⟩ := by
      rw [hsource]
      exact hcolumn
    obtain ⟨atoms, hatoms⟩ : ∃ atoms,
        windowAtoms ⟨e.dateColumn, he.dateColumn⟩ g.today w = .ok atoms :=
      ⟨_, windowAtoms_eq_ok_iff.mpr ⟨hstarts w hw, rfl⟩⟩
    exact ⟨⟨xs, atoms⟩, bind_eq_ok.mpr ⟨xs, hxs, bind_eq_ok.mpr ⟨_, hcolumn',
      bind_eq_ok.mpr ⟨atoms, hatoms, rfl⟩⟩⟩⟩

/-- Such a query is generated without warnings if its window starts in the calendar. -/
theorem exists_bundle (g : Generator) (d : Dialect)
    (hstarts : ∀ w, q.window = some w → Starts g.today w) :
    ∃ b, g.generate q d = .ok b ∧ b.warnings = [] := by
  obtain ⟨e, he, hsource⟩ := h.source
  obtain ⟨table, htable⟩ := he.exists_table d
  obtain ⟨⟨cs, fields⟩, hcolumns⟩ := h.exists_columns
  obtain ⟨filter, hfilter⟩ := h.exists_filter g hstarts
  obtain ⟨order, horder⟩ := h.exists_order
  have hclosed : ∀ function ∈ q.functions, Closed function := fun f hf =>
    closed_of_noQuote (h.noQuote f hf)
  have hstatements := Generator.statements_eq_ok_iff.mpr
    ⟨table, cs, fields, filter, order, hsource ▸ htable, hcolumns, hfilter, horder, rfl⟩
  exact ⟨_, (Generator.generate_eq_ok_iff_of_closed hclosed).mpr
    ⟨_, hstatements, h.balanced, rfl⟩, rfl⟩

/-- A relative window that reaches before the calendar is reported as such, since everything that is
checked before it is in order. -/
theorem generate_beforeCalendar (g : Generator) (d : Dialect) {days : UInt32}
    (hwindow : q.window = some (.relative days))
    (hbefore : g.today.minusDays? days.toNat = none) :
    g.generate q d = .error (.beforeCalendar days.toNat) := by
  obtain ⟨e, he, hsource⟩ := h.source
  obtain ⟨table, htable⟩ := he.exists_table d
  obtain ⟨columns, hcolumns⟩ := h.exists_columns
  obtain ⟨xs, hxs⟩ := h.exists_conditions
  have hcolumn : identifier .dateColumn e.dateColumn = .ok ⟨e.dateColumn, he.dateColumn⟩ :=
    identifier_of_plain he.dateColumn
  have hfilter : g.filter q = .error (.beforeCalendar days.toNat) := by
    unfold Generator.filter
    rw [hxs, hwindow, hsource]
    show (do
      let column ← identifier .dateColumn e.dateColumn
      return (⟨xs, ← windowAtoms column g.today (.relative days)⟩ : Filter) :
        Except SqlFault Filter) = _
    rw [hcolumn]
    show (windowAtoms _ g.today (.relative days) >>= _) = _
    simp only [windowAtoms, hbefore]
    rfl
  unfold Generator.generate Generator.statements
  rw [hsource, htable, hcolumns, hfilter]
  rfl

end Query.Tabled

/-! ## Compilation -/

theorem SqlFault.message_beforeCalendar (days : Nat) : (SqlFault.beforeCalendar days).message =
    "Validation failed: Time window of " ++ toString days ++
      " days reaches before the calendar" := by
  have hmessage : (SqlFault.beforeCalendar days).message =
      "Validation failed: " ++ (SqlFault.beforeCalendar days).reason := by
    unfold message
    rfl
  have hreason : (SqlFault.beforeCalendar days).reason =
      "Time window of " ++ toString days ++ " days reaches before the calendar" := by
    unfold reason
    dsimp only
  have hprefix : "Validation failed: " ++ "Time window of " =
      "Validation failed: Time window of " := by decide
  rw [hmessage, hreason, String.append_assoc, ← String.append_assoc, hprefix, String.append_assoc]

namespace Compiler

/-- On any day but the first every text names a window or none. -/
theorem span_ne_beforeCalendar {today : Date} (hday : today ≠ Date.first) (lowered : String) :
    Rules.span lowered today ≠ .beforeCalendar := by
  obtain ⟨yesterday, hyesterday⟩ := Date.exists_yesterday hday
  unfold Rules.span
  rw [hyesterday]
  dsimp only
  repeat' split
  all_goals exact Rules.Span.noConfusion

/-- Nor does what the model describes name the day before the first. -/
theorem described_ne_beforeCalendar {today : Date} (hday : today ≠ Date.first) (lowered : String)
    (a : Analysis) : span lowered a today ≠ .beforeCalendar := by
  unfold span
  split
  · split
    · exact span_ne_beforeCalendar hday _
    · exact Rules.Span.noConfusion
  · exact span_ne_beforeCalendar hday _

/-- A request that does not ask for the day before the first becomes the query that was
understood. -/
theorem compile_eq_of_ne {c : Compiler} {text : String} {answer : ModelAnswer}
    (hspan : span (Text.lower text) (analyze (Classifier.classify text) answer) c.today ≠
      .beforeCalendar) : c.compile text answer =
      .ok (c.understood text (analyze (Classifier.classify text) answer)) := by
  unfold compile
  dsimp only
  split
  · next heq =>
    rw [build_draft]
    simp only [understood, heq, Rules.Span.window?, Except.mapError]
  · next w heq =>
    rw [build_draft]
    simp only [understood, heq, Rules.Span.window?, Except.mapError]
  · next heq => exact absurd heq hspan

/-- On any day but the first, every request does. -/
theorem compile_eq {c : Compiler} (hday : c.today ≠ Date.first) (text : String)
    (answer : ModelAnswer) : c.compile text answer =
      .ok (c.understood text (analyze (Classifier.classify text) answer)) :=
  compile_eq_of_ne (described_ne_beforeCalendar hday _ _)

/-- The grouping is what the rules find in some wording, the request's or the model's. -/
theorem aggregation?_eq_some {lowered : String} {a : Analysis} {spec : Aggregation}
    (h : aggregation? lowered a = some spec) :
    ∃ wording, Rules.aggregation? wording = some spec := by
  unfold aggregation? at h
  cases hlowered : Rules.aggregation? lowered with
  | some found =>
    rw [hlowered] at h
    exact ⟨lowered, hlowered.trans h⟩
  | none =>
    rw [hlowered] at h
    obtain ⟨described, -, hdescribed⟩ := Option.bind_eq_some_iff.mp h
    exact ⟨described, hdescribed⟩

theorem tabled_aggregation {lowered : String} {a : Analysis} {spec : Aggregation}
    (h : aggregation? lowered a = some spec) : Rules.Tabled spec := by
  obtain ⟨_, hfound⟩ := aggregation?_eq_some h
  exact Rules.tabled_aggregation hfound

theorem sortBy_plain {lowered : String} {a : Analysis} {intent : Intent}
    {aggregation : Option Aggregation} (h : ∀ spec ∈ aggregation, Rules.Tabled spec) :
    ∀ field ∈ (Rules.presentation lowered a intent aggregation).sortBy,
      isIdentifier field = true := by
  intro field hfield
  simp only [Rules.presentation] at hfield
  split at hfield
  · obtain ⟨x, hx, rfl⟩ := Option.map_eq_some_iff.mp hfield
    obtain ⟨spec, hspec, hhead⟩ := Option.bind_eq_some_iff.mp hx
    exact (h spec hspec).label_plain (List.mem_of_head? hhead)
  · cases hfield

/-- What is understood of a request over a plain catalog is within reach of the generator. -/
theorem tabled_understood {c : Compiler} (hcatalog : c.catalog.Plain) (text : String)
    (a : Analysis) : (c.understood text a).Tabled := by
  obtain ⟨e, he, hresolve⟩ := c.catalog.resolve_mem a.dataEntity text
  have htabled : ∀ spec ∈ aggregation? (Text.lower text) a, Rules.Tabled spec := fun _ h =>
    tabled_aggregation h
  refine ⟨⟨e, hcatalog e he, ?_⟩, ⟨Text.lower text, ?_⟩, ?_, ?_⟩
  · simp only [understood, hresolve]
  · simp only [understood]
  · simpa only [understood] using htabled
  · simp only [understood]
    exact sortBy_plain htabled

/-- A request compiles, over a plain catalog, to a query within reach of the generator. -/
theorem compile_tabled {c : Compiler} (hcatalog : c.catalog.Plain) (hday : c.today ≠ Date.first)
    (text : String) (answer : ModelAnswer) :
    ∃ q, c.compile text answer = .ok q ∧ q.Tabled :=
  ⟨_, compile_eq hday text answer, tabled_understood hcatalog text _⟩

/-- Every request over a plain catalog compiles and is generated without warnings in every dialect,
except when it names a relative window that reaches before the first day of the calendar; then that
is what is reported. -/
theorem compile_generates {c : Compiler} {g : Generator} (hcatalog : c.catalog.Plain)
    (hday : c.today ≠ Date.first) (htoday : g.today = c.today) (text : String)
    (answer : ModelAnswer) (d : Dialect) :
    ∃ q, c.compile text answer = .ok q ∧
      (∀ days, q.window = some (.relative days) →
        c.today.number - days.toNat < Date.first.number →
        ∃ fault, g.generate q d = .error fault ∧ fault.message =
          "Validation failed: Time window of " ++ toString days.toNat ++
            " days reaches before the calendar") ∧
      ((∀ days, q.window = some (.relative days) →
          Date.first.number ≤ c.today.number - days.toNat) →
        ∃ b, g.generate q d = .ok b ∧ b.warnings = []) := by
  obtain ⟨q, hcompile, htabled⟩ := compile_tabled hcatalog hday text answer
  refine ⟨q, hcompile, fun days hwindow hbefore => ?_, fun hstarts => ?_⟩
  · have hnone : g.today.minusDays? days.toNat = none := by
      rw [htoday]
      exact Date.minusDays?_eq_none_iff.mpr hbefore
    exact ⟨_, htabled.generate_beforeCalendar g d hwindow hnone,
      SqlFault.message_beforeCalendar days.toNat⟩
  · refine htabled.exists_bundle g d fun w hw => ?_
    rintro days rfl
    cases hminus : g.today.minusDays? days.toNat with
    | some start => exact ⟨start, rfl⟩
    | none =>
      rw [htoday] at hminus
      have hbefore := Date.minusDays?_eq_none_iff.mp hminus
      have hafter := hstarts days hw
      omega

/-- A compiler over the standard catalog on a day in spring. -/
def spring : Compiler := ⟨.standard, .default, ⟨2024, 3, 15, by decide⟩⟩

theorem plain_standard : Catalog.standard.Plain := by
  have hplain : ∀ e ∈ Catalog.standard.fallback :: Catalog.standard.entries,
      isIdentifier e.table = true ∧ e.database.all isIdentifier = true ∧
        isIdentifier e.dateColumn = true := by decide
  intro e he
  obtain ⟨htable, hdatabase, hcolumn⟩ := hplain e he
  exact ⟨htable, fun d hd => by rwa [Option.mem_def.mp hd] at hdatabase, hcolumn⟩

/-- A week can be asked for, and four billion days cannot. -/
theorem compile_generates_spring :
    (∃ q b, spring.compile "vip users of the last 7 days" (.ok "no object") = .ok q ∧
      (Generator.mk 5 spring.today).generate q .presto = .ok b ∧ b.warnings = []) ∧
    ∃ q fault, spring.compile "orders of the last 4000000000 days" (.ok "{}") = .ok q ∧
      (Generator.mk 5 spring.today).generate q .spark = .error fault ∧ fault.message =
        "Validation failed: Time window of 4000000000 days reaches before the calendar" := by
  have hday : spring.today ≠ Date.first := by decide
  constructor
  · obtain ⟨q, hq, -, hok⟩ := compile_generates (g := ⟨5, spring.today⟩) plain_standard hday rfl
      "vip users of the last 7 days" (.ok "no object") .presto
    have hwindow : (spring.compile "vip users of the last 7 days" (.ok "no object")).toOption.map
        (·.window) = some (some (.relative 7)) := by decide +kernel
    rw [hq] at hwindow
    have hwindow : q.window = some (.relative 7) := Option.some.inj hwindow
    obtain ⟨b, hb⟩ := hok fun days hdays => by
      rw [hwindow] at hdays
      cases hdays
      decide
    exact ⟨q, b, hq, hb⟩
  · obtain ⟨q, hq, hbefore, -⟩ := compile_generates (g := ⟨5, spring.today⟩) plain_standard hday rfl
      "orders of the last 4000000000 days" (.ok "{}") .spark
    have hwindow : (spring.compile "orders of the last 4000000000 days" (.ok "{}")).toOption.map
        (·.window) = some (some (.relative 4000000000)) := by decide +kernel
    rw [hq] at hwindow
    obtain ⟨fault, hfault, hmessage⟩ := hbefore 4000000000 (Option.some.inj hwindow) (by decide)
    exact ⟨q, fault, hq, hfault, hmessage⟩

end Compiler

end QueryDesk
