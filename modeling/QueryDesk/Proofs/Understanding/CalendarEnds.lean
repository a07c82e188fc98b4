import QueryDesk.Proofs.Sql.WellFormed
import QueryDesk.Proofs.Understanding.Compilation

/-!
# Requests at the ends of the calendar

Two steps go back in time: the rules go back one day for a wording that names yesterday, and the
generator goes back by the days of a relative window.  The generator reports a day that the calendar
does not have.  The rules break off at it, so on the first day of the calendar a request for
yesterday is lost; on any other day, and for any other request, there is a query
(`compile_aborts_iff`, `windows_within_calendar`).
-/

namespace QueryDesk

open Sql

/-! ## Wordings -/

namespace Rules

open Vocabulary

/-- The wording asks for the day before: it counts no days, and it has a word for yesterday. -/
def NamesYesterday (lowered : String) : Prop :=
  dayCount? lowered = none ∧ mentions lowered ["yesterday", "昨天"] = true

/-- The wording says nothing of time. -/
structure Timeless (lowered : String) : Prop where
  days : dayCount? lowered = none
  yesterday : mentions lowered ["yesterday", "昨天"] = false
  today : mentions lowered ["today", "今天"] = false
  fixed : ∀ row ∈ fixedWindows, mentions lowered row.1 = false
  month : mentions lowered ["this month", "本月"] = false
  year : mentions lowered ["this year", "今年"] = false

theorem span_eq_beforeCalendar_iff {lowered : String} {today : Date} :
    span lowered today = .beforeCalendar ↔ today = Date.first ∧ NamesYesterday lowered := by
  unfold NamesYesterday span
  cases hdays : dayCount? lowered with
  | some days => simp
  | none =>
    cases hyesterday : mentions lowered ["yesterday", "昨天"] with
    | true =>
      by_cases hfirst : today = Date.first
      · have hbefore : Date.first.minusDays? 1 = none :=
          Date.minusDays?_eq_none_iff.mpr (by omega)
        simp [hfirst, hbefore]
      · obtain ⟨yesterday, hsome⟩ := Date.exists_yesterday hfirst
        simp [hfirst, hsome]
    | false =>
      simp only [Bool.false_eq_true, and_false, if_false, iff_false]
      repeat' split
      all_goals exact Span.noConfusion

theorem Timeless.not_namesYesterday {lowered : String} (h : Timeless lowered) :
    ¬NamesYesterday lowered := fun hnames =>
  Bool.noConfusion (hnames.2.symm.trans h.yesterday)

/-- A wording that says nothing of time names no window, on any day. -/
theorem span_eq_none_iff {lowered : String} {today : Date} :
    span lowered today = .none ↔ Timeless lowered := by
  have hfixed : (∀ row ∈ fixedWindows, mentions lowered row.1 = false) ↔
      fixedWindows.find? (fun row => mentions lowered row.1) = none := by
    rw [List.find?_eq_none]
    simp only [Bool.not_eq_true]
  unfold span
  constructor
  · intro h
    split at h
    · cases h
    next hdays =>
    split at h
    · split at h <;> cases h
    next hyesterday =>
    split at h
    · cases h
    next htoday =>
    split at h
    · cases h
    next hfind =>
    split at h
    · cases h
    next hmonth =>
    split at h
    · cases h
    next hyear =>
    exact ⟨hdays, by simpa using hyesterday, by simpa using htoday, hfixed.mpr hfind,
      by simpa using hmonth, by simpa using hyear⟩
  · rintro ⟨hdays, hyesterday, htoday, hwindows, hmonth, hyear⟩
    simp only [hdays, hyesterday, htoday, hmonth, hyear, Bool.false_eq_true, if_false]
    split
    · next hfind => cases hfind.symm.trans (hfixed.mp hwindows)
    · rfl

end Rules

/-! ## Which requests compile -/

namespace Compiler

/-- The wording that decides on the window names yesterday: the request's own or, if that says
nothing of time, what was understood of it. -/
def AsksForYesterday (text : String) (a : Analysis) : Prop :=
  Rules.NamesYesterday (Text.lower text) ∨
    Rules.Timeless (Text.lower text) ∧
      ∃ described ∈ a.timeRange, Rules.NamesYesterday (Text.lower described)

theorem span_eq_beforeCalendar_iff {text : String} {a : Analysis} {today : Date} :
    span (Text.lower text) a today = .beforeCalendar ↔
      today = Date.first ∧ AsksForYesterday text a := by
  have hnone : Rules.span (Text.lower text) today = .none ↔ Rules.Timeless (Text.lower text) :=
    Rules.span_eq_none_iff
  have hbefore : Rules.span (Text.lower text) today = .beforeCalendar ↔
      today = Date.first ∧ Rules.NamesYesterday (Text.lower text) :=
    Rules.span_eq_beforeCalendar_iff
  unfold AsksForYesterday span
  cases hspan : Rules.span (Text.lower text) today with
  | none =>
    have htimeless := hnone.mp hspan
    cases a.timeRange with
    | none => simp [htimeless.not_namesYesterday]
    | some described =>
      simp [htimeless, htimeless.not_namesYesterday, Rules.span_eq_beforeCalendar_iff]
  | window w =>
    rw [hspan] at hnone hbefore
    simp only [reduceCtorEq, false_iff] at hnone hbefore ⊢
    rintro ⟨hfirst, hnames | ⟨htimeless, -⟩⟩
    · exact hbefore ⟨hfirst, hnames⟩
    · exact hnone htimeless
  | beforeCalendar =>
    obtain ⟨hfirst, hnames⟩ := hbefore.mp hspan
    simp [hfirst, hnames]

/-- Compiling breaks off at the day before the first, or ends with what was understood. -/
theorem compile_cases (c : Compiler) (text : String) (answer : ModelAnswer) :
    span (Text.lower text) (analyze (Classifier.classify text) answer) c.today = .beforeCalendar ∧
      c.compile text answer = .error (.abort .beforeCalendar) ∨
    span (Text.lower text) (analyze (Classifier.classify text) answer) c.today ≠ .beforeCalendar ∧
      c.compile text answer =
        .ok (c.understood text (analyze (Classifier.classify text) answer)) := by
  by_cases hspan : span (Text.lower text) (analyze (Classifier.classify text) answer) c.today =
      .beforeCalendar
  · refine .inl ⟨hspan, ?_⟩
    unfold compile
    dsimp only
    rw [hspan]
  · exact .inr ⟨hspan, compile_eq_of_ne hspan⟩

/-- Compiling breaks off exactly if the request asks, on the first day, for the day before. -/
theorem compile_aborts_iff {c : Compiler} {text : String} {answer : ModelAnswer} :
    c.compile text answer = .error (.abort .beforeCalendar) ↔ c.today = Date.first ∧
      AsksForYesterday text (analyze (Classifier.classify text) answer) := by
  rw [← span_eq_beforeCalendar_iff]
  rcases c.compile_cases text answer with ⟨hspan, hcompile⟩ | ⟨hspan, hcompile⟩
  · exact iff_of_true hcompile hspan
  · exact iff_of_false (fun h => nomatch hcompile.symm.trans h) hspan

/-- Nothing else keeps a request from its query. -/
theorem compile_ne_fault (c : Compiler) (text : String) (answer : ModelAnswer) (f : Fault) :
    c.compile text answer ≠ .error (.fault f) := by
  intro h
  rcases c.compile_cases text answer with ⟨-, hcompile⟩ | ⟨-, hcompile⟩ <;>
    cases hcompile.symm.trans h

theorem compile_eq_ok {c : Compiler} {text : String} {answer : ModelAnswer} {q : Query}
    (h : c.compile text answer = .ok q) :
    q = c.understood text (analyze (Classifier.classify text) answer) := by
  rcases c.compile_cases text answer with ⟨-, hcompile⟩ | ⟨-, hcompile⟩
  · cases hcompile.symm.trans h
  · exact Except.ok.inj (h.symm.trans hcompile)

end Compiler

/-! ## What is left to go wrong -/

/-- A query that is within reach of the generator over some table. -/
def Query.Ruled (q : Query) : Prop := ∃ source, { q with source := source }.Tabled

/-- The names of the source that the statements of a query hold are plain. -/
structure Query.PlainlyNamed (q : Query) (d : Dialect) : Prop where
  table : isIdentifier q.source.table = true
  database : d = .hive ∨ d = .spark → ∀ name ∈ q.source.database, isIdentifier name = true
  dateColumn : q.window ≠ none → isIdentifier q.source.dateColumn = true

theorem Query.plainlyNamed_iff {q : Query} {d : Dialect} : q.PlainlyNamed d ↔
    (isIdentifier q.source.table = true ∧
      (d = .hive ∨ d = .spark → ∀ name ∈ q.source.database, isIdentifier name = true)) ∧
    (q.window ≠ none → isIdentifier q.source.dateColumn = true) :=
  ⟨fun h => ⟨⟨h.table, h.database⟩, h.dateColumn⟩, fun ⟨⟨table, database⟩, dateColumn⟩ =>
    ⟨table, database, dateColumn⟩⟩

theorem Query.plainlyNamed_of_plain {q : Query} {e : SourceEntry} (he : e.Plain)
    (hsource : q.source = e.toRef) (d : Dialect) : q.PlainlyNamed d := by
  refine ⟨?_, fun _ => ?_, fun _ => ?_⟩ <;> rw [hsource]
  · exact he.table
  · exact he.database
  · exact he.dateColumn

/-- The window, if it is relative, starts in the calendar. -/
def Query.StartsInCalendar (q : Query) (today : Date) : Prop :=
  ∀ days, q.window = some (.relative days) → Date.first.number ≤ today.number - days.toNat

/-- Names are not at fault for a window. -/
theorem not_firstUnmet_sourceDemands {source : SourceRef} {d : Dialect} {n : Nat} :
    ¬FirstUnmet (sourceDemands source d) (.beforeCalendar n) := by
  intro h
  obtain ⟨x, hx, -, hfault⟩ := h.exists_mem
  have hname : ∃ role name, x = plainName role name := by
    rcases List.mem_cons.mp hx with rfl | hx
    · exact ⟨_, _, rfl⟩
    · split at hx
      · obtain ⟨name, -, rfl⟩ := List.mem_map.mp hx
        exact ⟨_, _, rfl⟩
      · cases hx
  obtain ⟨role, name, rfl⟩ := hname
  cases hfault

theorem firstUnmet_windowDemands_iff {q : Query} {today : Date} {n : Nat} :
    FirstUnmet (windowDemands q today) (.beforeCalendar n) ↔
      (q.window ≠ none → isIdentifier q.source.dateColumn = true) ∧ ∃ days,
        q.window = some (.relative days) ∧ days.toNat = n ∧
          today.number - n < Date.first.number := by
  unfold windowDemands
  cases q.window with
  | none => simp [FirstUnmet.not_nil]
  | some w =>
    cases w with
    | absolute start stop =>
      simp [FirstUnmet.cons_iff, FirstUnmet.not_nil, startDemands, plainName]
    | relative days =>
      simp only [startDemands, FirstUnmet.cons_iff]
      constructor
      · rintro (⟨-, hname⟩ | ⟨hcolumn, ⟨hbefore, hfault⟩ | ⟨-, hrest⟩⟩)
        · cases hname
        · cases hfault
          exact ⟨fun _ => hcolumn, days, rfl, rfl, Int.not_le.mp hbefore⟩
        · exact absurd hrest FirstUnmet.not_nil
      · rintro ⟨hcolumn, days, ⟨⟩, rfl, hbefore⟩
        exact Or.inr ⟨hcolumn (Option.some_ne_none _), Or.inl ⟨Int.not_le.mpr hbefore, rfl⟩⟩

namespace Query.Ruled

variable {q : Query} (h : q.Ruled)

include h

theorem aggregation_met : ∀ y ∈ q.aggregation.toList.flatMap aggregationDemands, y.met := by
  obtain ⟨source, htabled⟩ := h
  exact (checks_columns { q with source := source }).exists_ok_iff.mp htabled.exists_columns

theorem order_met : ∀ y ∈ q.output.sortBy.toList.map (plainName .sortField), y.met := by
  obtain ⟨source, htabled⟩ := h
  exact (checks_order { q with source := source }).exists_ok_iff.mp htabled.exists_order

theorem conditions_met : ∀ y ∈ q.conditions.flatMap conditionDemands, y.met := by
  obtain ⟨source, htabled⟩ := h
  have hchecks : Checks (q.conditions.mapM fun c => do return (c.join, ← atom c))
      (q.conditions.flatMap conditionDemands) := Checks.mapM fun c _ => (checks_atom c).map
  exact hchecks.exists_ok_iff.mp htabled.exists_conditions

theorem noQuote : ∀ function ∈ q.functions, '\'' ∉ function.toList := by
  obtain ⟨source, htabled⟩ := h
  exact htabled.noQuote

theorem balance_met : (balanceDemand q).met := by
  have hquote := h.noQuote
  obtain ⟨source, htabled⟩ := h
  exact (functions_balanced_iff hquote).mp htabled.balanced

/-- Only the names of the source and the window can be at fault. -/
theorem firstUnmet_demands_iff {d : Dialect} {today : Date} {fault : SqlFault} :
    FirstUnmet (demands q d today) fault ↔
      FirstUnmet (sourceDemands q.source d ++ windowDemands q today) fault := by
  have hbalance : ∀ y ∈ [balanceDemand q], y.met := List.forall_mem_singleton.mpr h.balance_met
  rw [demands, FirstUnmet.append_iff_left hbalance, partDemands, FirstUnmet.append_iff,
    FirstUnmet.append_iff_right h.aggregation_met, FirstUnmet.append_iff_left h.order_met,
    FirstUnmet.append_iff_right h.conditions_met, ← FirstUnmet.append_iff]

theorem checks_generate (g : Generator) (d : Dialect) :
    Checks (g.generate q d) (sourceDemands q.source d ++ windowDemands q g.today) := fun fault =>
  (Sql.checks_generate g q d h.noQuote fault).trans h.firstUnmet_demands_iff

/-- Such a query is generated exactly if its names are plain and its window starts in the
calendar. -/
theorem generate_succeeds_iff (g : Generator) (d : Dialect) :
    (∃ b, g.generate q d = .ok b) ↔ q.PlainlyNamed d ∧ q.StartsInCalendar g.today := by
  rw [(h.checks_generate g d).exists_ok_iff, List.forall_mem_append, forall_sourceDemands_iff,
    forall_windowDemands_iff, ← and_assoc, ← plainlyNamed_iff]
  exact Iff.rfl

/-- And its window is reported exactly if its names are plain and the window does not start in the
calendar. -/
theorem generate_reports_iff (g : Generator) (d : Dialect) {n : Nat} :
    g.generate q d = .error (.beforeCalendar n) ↔ q.PlainlyNamed d ∧ ∃ days,
      q.window = some (.relative days) ∧ days.toNat = n ∧
        g.today.number - n < Date.first.number := by
  rw [h.checks_generate g d, FirstUnmet.append_iff, or_iff_right not_firstUnmet_sourceDemands,
    forall_sourceDemands_iff, firstUnmet_windowDemands_iff, ← and_assoc, ← plainlyNamed_iff]

end Query.Ruled

namespace Compiler

/-- What is understood of a request is within reach of the generator over some table. -/
theorem ruled_understood (c : Compiler) (text : String) (a : Analysis) :
    (c.understood text a).Ruled := by
  have htabled := tabled_understood (c := { c with catalog := .standard }) plain_standard text a
  have heq : ({ c with catalog := .standard } : Compiler).understood text a =
      { c.understood text a with source := Catalog.standard.resolve a.dataEntity text } := by
    simp only [understood]
  rw [heq] at htabled
  exact ⟨_, htabled⟩

/-- Over every catalog and on every day of the calendar: compiling breaks off exactly if the request
asks, on the first day, for the day before, and never ends in a fault.  What it ends with is
generated exactly if the names of its source are plain and its window starts in the calendar, and a
window is reported to reach before the calendar exactly if the names are plain and it does. -/
theorem windows_within_calendar (c : Compiler) (text : String) (answer : ModelAnswer) :
    (c.compile text answer = .error (.abort .beforeCalendar) ↔ c.today = Date.first ∧
      AsksForYesterday text (analyze (Classifier.classify text) answer)) ∧
    (∀ f, c.compile text answer ≠ .error (.fault f)) ∧
    (∀ q, c.compile text answer = .ok q → ∀ (g : Generator) (d : Dialect),
      ((∃ b, g.generate q d = .ok b) ↔ q.PlainlyNamed d ∧ q.StartsInCalendar g.today) ∧
      ∀ n, g.generate q d = .error (.beforeCalendar n) ↔ q.PlainlyNamed d ∧ ∃ days,
        q.window = some (.relative days) ∧ days.toNat = n ∧
          g.today.number - n < Date.first.number) ∧
    ∀ n, (SqlFault.beforeCalendar n).message = "Validation failed: Time window of " ++ toString n ++
      " days reaches before the calendar" := by
  refine ⟨compile_aborts_iff, c.compile_ne_fault text answer, fun q hq g d => ?_,
    SqlFault.message_beforeCalendar⟩
  have hruled : q.Ruled := by
    rw [compile_eq_ok hq]
    exact c.ruled_understood text _
  exact ⟨hruled.generate_succeeds_iff g d, fun n => hruled.generate_reports_iff g d⟩

/-- A compiler over the standard catalog on the first day of the calendar. -/
def firstDay : Compiler := ⟨.standard, .default, Date.first⟩

/-- A request about the users compiles to a query whose names are plain. -/
theorem exists_users_query {c : Compiler} {text : String} {answer : ModelAnswer}
    {window : Option Window} (h : (c.compile text answer).toOption.map
      (fun q => (q.source, q.window)) = some (Catalog.users.toRef, window)) :
    ∃ q, c.compile text answer = .ok q ∧ q.window = window ∧ ∀ d, q.PlainlyNamed d := by
  obtain ⟨q, hq, hview⟩ := exists_ok_of_map h
  obtain ⟨hsource, hwindow⟩ := Prod.mk.inj hview
  have husers : Catalog.users.Plain := plain_standard _ List.mem_cons_self
  exact ⟨q, hq, hwindow, q.plainlyNamed_of_plain husers hsource⟩

/-- On that day a request for yesterday is lost, and the generator refuses one for the last day; a
day in spring has a day before it. -/
theorem windows_within_calendar_first :
    firstDay.compile "users of yesterday" (.ok "no object") = .error (.abort .beforeCalendar) ∧
    (∃ q, firstDay.compile "users of the last 1 day" (.ok "no object") = .ok q ∧
      (Generator.mk 5 Date.first).generate q .hive = .error (.beforeCalendar 1)) ∧
    ∃ q b, spring.compile "users of yesterday" (.ok "no object") = .ok q ∧
      (Generator.mk 5 spring.today).generate q .hive = .ok b := by
  refine ⟨?_, ?_, ?_⟩
  · have haborts := (windows_within_calendar firstDay "users of yesterday" (.ok "no object")).1
    exact haborts.mpr ⟨rfl, Or.inl ⟨by decide +kernel, by decide +kernel⟩⟩
  · obtain ⟨-, -, hgenerates, -⟩ :=
      windows_within_calendar firstDay "users of the last 1 day" (.ok "no object")
    have hview : (firstDay.compile "users of the last 1 day" (.ok "no object")).toOption.map
        (fun q => (q.source, q.window)) = some (Catalog.users.toRef, some (.relative 1)) := by
      decide +kernel
    obtain ⟨q, hq, hwindow, hnamed⟩ := exists_users_query hview
    have hreports := (hgenerates q hq ⟨5, Date.first⟩ .hive).2 1
    exact ⟨q, hq, hreports.mpr ⟨hnamed .hive, 1, hwindow, rfl, by decide⟩⟩
  · obtain ⟨-, -, hgenerates, -⟩ :=
      windows_within_calendar spring "users of yesterday" (.ok "no object")
    have hview : (spring.compile "users of yesterday" (.ok "no object")).toOption.map
        (fun q => (q.source, q.window)) =
        some (Catalog.users.toRef, some (.day ⟨2024, 3, 14, by decide⟩)) := by decide +kernel
    obtain ⟨q, hq, hwindow, hnamed⟩ := exists_users_query hview
    have hstarts : q.StartsInCalendar spring.today := by
      intro days hdays
      rw [hwindow] at hdays
      cases hdays
    obtain ⟨b, hb⟩ := (hgenerates q hq ⟨5, spring.today⟩ .hive).1.mpr ⟨hnamed .hive, hstarts⟩
    exact ⟨q, b, hq, hb⟩

/-- Not every request compiles on every day. -/
theorem yesterday_lost :
    ¬∃ q, firstDay.compile "users of yesterday" (.ok "no object") = .ok q := by
  rintro ⟨q, hq⟩
  have hnone : (firstDay.compile "users of yesterday" (.ok "no object")).toOption.isNone := by
    decide +kernel
  rw [hq] at hnone
  cases hnone

end Compiler

end QueryDesk
