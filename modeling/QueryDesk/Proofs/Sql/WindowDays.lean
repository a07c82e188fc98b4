import QueryDesk.Proofs.Calendar.TextOrder
import QueryDesk.Proofs.Sql.WhereClause

/-!
# The days that a window selects

The predicate of a window compares a column of date texts with quoted dates.  Read back, it is true
of the text of a day exactly if the window covers the day (`timePredicate_selects`), as long as no
year needs a sign: past the year 9999 or before the year 0 the texts are no longer ordered as the
dates are.  What a window covers is said in day numbers, without the bounds that the renderer makes
of it, and the two are compared bound by bound (`forall_windowBounds_iff`).
-/

namespace QueryDesk

open Text (Precedes)

/-! ## What a window covers -/

namespace Window

/-- The days of a window: of a relative one those up to today, of any other those that are neither
before its start nor after its end. -/
def Covers (today : Date) : Window → Date → Prop
  | .relative days, d => today.number - days.toNat ≤ d.number ∧ d.number ≤ today.number
  | .absolute start stop, d =>
    (∀ first ∈ start, first.number ≤ d.number) ∧ ∀ last ∈ stop, d.number ≤ last.number

/-- Every date that the window is about has a year that is written without a sign. -/
def HasPlainYears (today : Date) : Window → Prop
  | .relative days => today.HasPlainYear ∧
    ∃ first : Date, first.number = today.number - days.toNat ∧ first.HasPlainYear
  | .absolute start stop =>
    (∀ first ∈ start, first.HasPlainYear) ∧ ∀ last ∈ stop, last.HasPlainYear

/-- The window of one day covers that day only. -/
theorem covers_day_iff {today d e : Date} : (day e).Covers today d ↔ d = e := by
  constructor
  · rintro ⟨hlow, hhigh⟩
    exact Date.number_injective (Int.le_antisymm (hhigh e rfl) (hlow e rfl))
  · rintro rfl
    exact ⟨fun _ h => Option.mem_some_iff.mp h ▸ Int.le_refl _,
      fun _ h => Option.mem_some_iff.mp h ▸ Int.le_refl _⟩

end Window

/-! ## Comparisons of date texts -/

/-- The comparison of one text with another, for the operators that compare. -/
def Operator.Compares (s t : List Char) : Operator → Prop
  | eq => s = t
  | gt => Precedes t s
  | lt => Precedes s t
  | ge => ¬Precedes s t
  | le => ¬Precedes t s
  | like | isIn | between => False

namespace Date

variable {d e : Date} (hd : d.HasPlainYear) (he : e.HasPlainYear)

include hd he

theorem ge_chars_iff : Operator.ge.Compares d.chars e.chars ↔ e.number ≤ d.number := by
  rw [Operator.Compares, precedes_chars_iff hd he, Int.not_lt]

theorem le_chars_iff : Operator.le.Compares d.chars e.chars ↔ d.number ≤ e.number := by
  rw [Operator.Compares, precedes_chars_iff he hd, Int.not_lt]

theorem eq_chars_iff : Operator.eq.Compares d.chars e.chars ↔ d = e := by
  refine ⟨fun h => ?_, fun h => h ▸ rfl⟩
  have hchars : d.chars = e.chars := h
  have hge := ge_chars_iff hd he
  have hle := le_chars_iff hd he
  -- equal texts do not precede each other, so neither date is later
  have hself : ¬Precedes e.chars e.chars := by
    rw [precedes_chars_iff he he]
    exact Int.lt_irrefl _
  rw [hchars] at hge hle
  exact number_injective (Int.le_antisymm (hle.mp hself) (hge.mp hself))

end Date

namespace Sql

/-! ## Bounds -/

/-- The bounds made of a window hold of the text of a day exactly if the window covers the day. -/
theorem forall_windowBounds_iff {today d : Date} {w : Window} (hw : w.HasPlainYears today)
    (hd : d.HasPlainYear) :
    (∀ bound ∈ windowBounds today w, bound.1.Compares d.chars bound.2.chars) ↔
      w.Covers today d := by
  cases w with
  | relative days =>
    obtain ⟨htoday, first, hfirst, hplain⟩ := hw
    have hstart : today.minusDays? days.toNat = some first := Date.minusDays?_eq_some_iff.mpr hfirst
    simp only [windowBounds, hstart, List.forall_mem_cons, Window.Covers,
      Date.ge_chars_iff hd hplain, Date.le_chars_iff hd htoday, hfirst]
    simp
  | absolute start stop =>
    obtain ⟨hstart, hstop⟩ := hw
    cases start with
    | none =>
      cases stop with
      | none => simp [windowBounds, Window.Covers]
      | some last =>
        simp [windowBounds, Window.Covers, Date.le_chars_iff hd (hstop last rfl)]
    | some first =>
      have hlow := Date.ge_chars_iff hd (hstart first rfl)
      cases stop with
      | none => simp [windowBounds, Window.Covers, hlow]
      | some last =>
        by_cases hsame : first = last
        · subst hsame
          have hday : (Window.absolute (some first) (some first)).Covers today d ↔ d = first :=
            Window.covers_day_iff
          simp [windowBounds, hday, Date.eq_chars_iff hd (hstart first rfl)]
        · simp [windowBounds, Window.Covers, hsame, hlow, Date.le_chars_iff hd (hstop last rfl)]

/-- A window makes no bounds exactly if it has none. -/
theorem windowBounds_eq_nil_iff {today : Date} {w : Window} (hw : Starts today w) :
    windowBounds today w = [] ↔ w = .absolute none none := by
  cases w with
  | relative days =>
    obtain ⟨first, hfirst⟩ := hw days rfl
    simp [windowBounds, hfirst]
  | absolute start stop =>
    cases start <;> cases stop <;> simp [windowBounds]
    split <;> simp

theorem starts_of_hasPlainYears {today : Date} {w : Window} (hw : w.HasPlainYears today) :
    Starts today w := by
  rintro days rfl
  obtain ⟨-, first, hfirst, -⟩ := hw
  exact ⟨first, Date.minusDays?_eq_some_iff.mpr hfirst⟩

/-! ## The predicate of a window -/

/-- The text of the predicate that a window puts on a column, none if it has no bounds. -/
def timePredicate (column : String) (today : Date) (w : Window) :
    Except SqlFault (Option String) := do
  let column ← identifier .dateColumn column
  return (Filter.mk [] (← windowAtoms column today w)).sql?

theorem timePredicate_eq {column : Identifier} {today : Date} {w : Window} (hw : Starts today w) :
    timePredicate column.name today w =
      .ok (Filter.mk [] ((windowBounds today w).map (boundAtom column))).sql? := by
  have hatoms : windowAtoms column today w = .ok ((windowBounds today w).map (boundAtom column)) :=
    windowAtoms_eq_ok_iff.mpr ⟨hw, rfl⟩
  rw [timePredicate, identifier_of_plain column.plain]
  exact bind_eq_ok.mpr ⟨column, rfl, bind_eq_ok.mpr ⟨_, hatoms, rfl⟩⟩

theorem Filter.sql?_eq_none_iff {f : Filter} : f.sql? = none ↔ f.parts = [] := by
  rw [sql?]
  split
  · next h => exact iff_of_true rfl h
  · next h => exact iff_of_false (fun h => nomatch h) h

/-- Two texts joined by AND, where there are both. -/
def andText : Option String → Option String → Option String
  | some a, some b => some (a ++ " AND " ++ b)
  | some a, none => some a
  | none, b => b

/-- A filter says what its conditions say and what its window says. -/
theorem Filter.sql?_eq (f : Filter) :
    f.sql? = andText (Filter.mk f.conditions []).sql? (Filter.mk [] f.window).sql? := by
  obtain ⟨conditions, window⟩ := f
  have hconditions : (Filter.mk conditions []).parts = [] ∨
      ∃ part, (Filter.mk conditions []).parts = [part] := by
    simp only [parts, List.map_nil, List.append_nil]
    split
    · exact Or.inl rfl
    · split <;> exact Or.inr ⟨_, rfl⟩
  have hparts : (Filter.mk conditions window).parts =
      (Filter.mk conditions []).parts ++ (Filter.mk [] window).parts := by
    simp [parts]
  rcases hconditions with hnil | ⟨part, hpart⟩
  · rw [sql?, sql?, sql?, hparts, hnil]
    rfl
  · rw [sql?, sql?, sql?, hparts, hpart]
    cases hwindow : (Filter.mk [] window).parts with
    | nil => rfl
    | cons a atoms =>
      simp only [List.cons_append, List.nil_append, String.intercalate_cons_cons, andText]
      rfl

/-- The window of a query adds this predicate to what the conditions say. -/
theorem Generator.sql?_filter {g : Generator} {q : Query} {f : Filter} {w : Window}
    (h : g.filter q = .ok f) (hw : q.window = some w) :
    ∃ predicate, timePredicate q.source.dateColumn g.today w = .ok predicate ∧
      f.sql? = andText (Filter.mk f.conditions []).sql? predicate := by
  obtain ⟨-, ⟨hnone, -⟩ | ⟨w', column, hw', hcolumn, hstarts, hwindow⟩⟩ := filter_eq_ok_iff.mp h
  · rw [hw] at hnone
    cases hnone
  · obtain rfl := Option.some.inj (hw.symm.trans hw')
    refine ⟨_, ?_, f.sql?_eq⟩
    rw [← identifier_name hcolumn, timePredicate_eq hstarts, hwindow]

/-! ## Reading the predicate back -/

/-- A filter that is read as something has a text, which is read as that behind WHERE. -/
theorem Filter.ReadAs.readWhere {f : Filter} {ps : List Predicate}
    {meaning : (Predicate → Prop) → Prop} (h : f.ReadAs ps meaning) {text : String}
    (htext : f.sql? = some text) :
    ∃ e, readWhere (" WHERE " ++ text) = some e ∧ e.predicates = ps ∧
      ∀ v, e.Holds v ↔ meaning v := by
  obtain ⟨e, he, hpredicates, hholds⟩ := h
  have hparts : text = " AND ".intercalate f.parts := by
    rw [sql?] at htext
    split at htext
    · cases htext
    · exact (Option.some.inj htext).symm
  have hpieces : Sql.pieces (" WHERE " ++ text).toList = codes " WHERE " ++ f.pieces := by
    rw [hparts]
    exact (Reads.codes_append (by decide) f.reads_text).pieces_eq
  have htokens : tokens (codes " WHERE " ++ f.pieces) =
      .word "WHERE".toList :: tokens f.pieces := rfl
  refine ⟨e, ?_, hpredicates, hholds⟩
  rw [Sql.readWhere, hpieces, htokens]
  exact he

/-- The truth of a comparison of a column with a literal, in a row that gives columns texts. -/
def Predicate.TrueOf (row : List Char → List Char) (p : Predicate) : Prop :=
  ∃ t, p.values = [.text t] ∧ p.operator.Compares (row p.field) t

/-- A filter of comparisons with the bounds of a window is read as all of them. -/
theorem readAs_windowBounds (column : Identifier) {today : Date} {w : Window}
    (h : windowBounds today w ≠ []) :
    Filter.ReadAs ⟨[], (windowBounds today w).map (boundAtom column)⟩
      ((windowBounds today w).map (boundPredicate column)) fun v =>
        ∀ bound ∈ windowBounds today w, v (boundPredicate column bound) := by
  have hconditions : List.Forall₂ (fun c x => c.join = x.1 ∧ atom c = .ok x.2) []
      (Filter.mk [] ((windowBounds today w).map (boundAtom column))).conditions := .nil
  obtain ⟨e, he, hpredicates, hholds⟩ := Filter.readAs hconditions
    (yields_windowBounds column today w) (Or.inr (mt List.map_eq_nil_iff.mp h))
  refine ⟨e, he, hpredicates, fun v => ?_⟩
  rw [hholds]
  exact (and_iff_right (Or.inl rfl)).trans List.forall_mem_map

/-- The comparison with a bound is true of a row with a date in the column exactly if the text of
the date compares so with that of the bound. -/
theorem boundPredicate_trueOf_iff {column : Identifier} {row : List Char → List Char} {d : Date}
    (h : row column.name.toList = d.text.toList) (bound : Operator × Date) :
    (boundPredicate column bound).TrueOf row ↔ bound.1.Compares d.chars bound.2.chars := by
  rw [Date.text, String.toList_ofList] at h
  simp [Predicate.TrueOf, boundPredicate, Date.text, h]

/-- What a window on a column says, if it says anything: a filter adds it to its conditions by AND,
and read on its own it is true of a row with a date in the column exactly if the window covers the
date. -/
structure Selects (column : String) (today : Date) (w : Window) (predicate : Option String) :
    Prop where
  absent_iff : predicate = none ↔ w = .absolute none none
  read : ∀ text ∈ predicate, ∃ e, readWhere (" WHERE " ++ text) = some e ∧
    ∀ (row : List Char → List Char) (d : Date), d.HasPlainYear → row column.toList = d.text.toList →
      (e.Holds (Predicate.TrueOf row) ↔ w.Covers today d)
  filter : ∀ (g : Generator) (q : Query) (f : Filter), g.today = today →
    q.source.dateColumn = column → q.window = some w → g.filter q = .ok f →
      f.sql? = andText (Filter.mk f.conditions []).sql? predicate

/-- The predicate of a window selects the days of the window. -/
theorem timePredicate_selects {column : String} {today : Date} {w : Window}
    (hcolumn : isIdentifier column = true) (hdates : w.HasPlainYears today) :
    ∃ predicate, timePredicate column today w = .ok predicate ∧
      Selects column today w predicate := by
  obtain ⟨column, rfl⟩ : ∃ i : Identifier, i.name = column := ⟨⟨column, hcolumn⟩, rfl⟩
  have hstarts := starts_of_hasPlainYears hdates
  refine ⟨_, timePredicate_eq hstarts, ?_, fun text htext => ?_, ?_⟩
  · rw [← windowBounds_eq_nil_iff hstarts, Filter.sql?_eq_none_iff]
    simp [Filter.parts]
  · have hne : windowBounds today w ≠ [] := by
      intro hnil
      rw [hnil] at htext
      cases htext
    obtain ⟨e, he, -, hholds⟩ := (readAs_windowBounds column hne).readWhere htext
    refine ⟨e, he, fun row d hd hrow => ?_⟩
    rw [hholds, ← forall_windowBounds_iff hdates hd]
    exact forall₂_congr fun bound _ => boundPredicate_trueOf_iff hrow bound
  · rintro g q f rfl hsource hw hf
    obtain ⟨predicate, hpredicate, hsql⟩ := Generator.sql?_filter hf hw
    rw [hsource, timePredicate_eq hstarts] at hpredicate
    rw [hsql, Except.ok.inj hpredicate]

/-- The first day after a leap day. -/
def afterLeapDay : Date := ⟨2024, 3, 1, by decide⟩

theorem timePredicate_selects_leap : isIdentifier "dt" = true ∧
    (Window.relative 7).HasPlainYears afterLeapDay ∧
    ∃ predicate, timePredicate "dt" afterLeapDay (.relative 7) = .ok predicate ∧
      Selects "dt" afterLeapDay (.relative 7) predicate :=
  have hdates : (Window.relative 7).HasPlainYears afterLeapDay :=
    ⟨by decide, ⟨2024, 2, 23, by decide⟩, by decide, by decide⟩
  ⟨by decide, hdates, timePredicate_selects (by decide) hdates⟩

example : timePredicate "dt" afterLeapDay (.relative 7) =
    .ok (some "dt >= '2024-02-23' AND dt <= '2024-03-01'") := by decide +kernel

end Sql

end QueryDesk
