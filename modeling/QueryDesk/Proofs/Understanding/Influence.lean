import QueryDesk.Proofs.Understanding.Compilation

/-!
# What a model's answer can change

The answer of the model never reaches a statement as text.  What it can do is choose: a table of
the catalog and, where the request is silent, a row of the tables for the aggregation and a window
given by today and at most a day count (`Choice`).  The statements of a request are those of a query
made from the request and such a choice alone, and everything that the request itself says is the
same under any two answers (`compile_confines`).
-/

namespace QueryDesk

open Sql

/-! ## Windows without text -/

/-- A window given by a day and at most a number of days before it. -/
inductive Window.SeenFrom (today : Date) : Window → Prop
  | relative (days : UInt32) : SeenFrom today (.relative days)
  | yesterday {d : Date} (h : today.minusDays? 1 = some d) : SeenFrom today (.day d)
  | today : SeenFrom today (.day today)
  | month : SeenFrom today (.absolute (some today.firstOfMonth) none)
  | year : SeenFrom today (.absolute (some today.firstOfYear) none)

/-- Whatever a text says, its window is given by the day it is seen from. -/
theorem Rules.seenFrom_span {lowered : String} {today : Date} {w : Window}
    (h : span lowered today = .window w) : w.SeenFrom today := by
  unfold span at h
  split at h
  · cases h
    exact .relative _
  split at h
  · split at h
    · next hyesterday =>
      cases h
      exact .yesterday hyesterday
    · cases h
  split at h
  · cases h
    exact .today
  split at h
  · cases h
    exact .relative _
  split at h
  · cases h
    exact .month
  split at h
  · cases h
    exact .year
  · cases h

/-! ## Choices -/

/-- What is left to the model: a table, an aggregation and a window. -/
structure Choice where
  entry : SourceEntry
  aggregation : Option Aggregation
  window : Option Window

namespace Choice

/-- The choices that are open: entries of the catalog, rows of the tables and windows seen from
today. -/
structure Open (x : Choice) (c : Compiler) : Prop where
  entry : x.entry ∈ c.catalog.fallback :: c.catalog.entries
  aggregation : ∀ a ∈ x.aggregation, Rules.Tabled a
  window : ∀ w ∈ x.window, w.SeenFrom c.today

/-- The query made of a request and a choice, without any answer. -/
def query (x : Choice) (text : String) : Query where
  originalText := text
  intent := Classifier.classify text
  source := x.entry.toRef
  conditions := Rules.conditions (Text.lower text)
  aggregation := x.aggregation
  window := x.window
  output := Rules.presentation (Text.lower text) .empty (Classifier.classify text).intent
    x.aggregation
  analysis := .empty
  description := Prompt.plainDescription (Classifier.classify text).intent
  confidence := (Classifier.classify text).confidence

/-- A choice that a query comes down to: its table, aggregation and window are the chosen ones, and
it generates what the query made of the request and the choice generates. -/
structure Settles (x : Choice) (text : String) (q : Query) : Prop where
  source : q.source = x.entry.toRef
  aggregation : q.aggregation = x.aggregation
  window : q.window = x.window
  generate : ∀ (g : Generator) (d : Dialect), g.generate q d = g.generate (x.query text) d

end Choice

/-- What a request says by itself is the same in two queries: the text, the intent, the conditions,
limit and direction, and the aggregation with its sort field and the window if it names them. -/
structure Query.AgreeOn (text : String) (today : Date) (q q' : Query) : Prop where
  originalText : q.originalText = q'.originalText
  intent : q.intent = q'.intent
  conditions : q.conditions = q'.conditions
  limit : q.output.limit = q'.output.limit
  direction : q.output.direction = q'.output.direction
  aggregation : ∀ a, Rules.aggregation? (Text.lower text) = some a →
    q.aggregation = some a ∧ q'.aggregation = some a ∧ q.output.sortBy = q'.output.sortBy
  window : ∀ w, Rules.span (Text.lower text) today = .window w →
    q.window = some w ∧ q'.window = some w

/-- Statements are made of the table, the conditions, the aggregation, the window, the limit and the
order. -/
theorem Sql.Generator.generate_congr (g : Generator) (d : Dialect) {q q' : Query}
    (hsource : q.source = q'.source) (hconditions : q.conditions = q'.conditions)
    (haggregation : q.aggregation = q'.aggregation) (hwindow : q.window = q'.window)
    (hlimit : q.output.limit = q'.output.limit) (hsort : q.output.sortBy = q'.output.sortBy)
    (hdirection : q.output.direction = q'.output.direction) :
    g.generate q d = g.generate q' d := by
  have hfilter : g.filter q = g.filter q' := by
    unfold filter
    rw [hconditions, hwindow, hsource]
  have hcolumns : columns q = columns q' := by
    unfold columns
    rw [haggregation]
  have horder : order q = order q' := by
    unfold order
    rw [hsort, hdirection]
  unfold generate statements
  rw [hsource, hcolumns, hfilter, horder, hlimit]

namespace Compiler

variable (c : Compiler) (text : String) (a a' : Analysis)

/-- The window that was understood is what the rules find in some wording, the request's or the
model's. -/
theorem exists_wording {w : Window} (h : (c.understood text a).window = some w) :
    ∃ wording, Rules.span wording c.today = .window w := by
  have hspan : span (Text.lower text) a c.today = .window w := by
    simp only [understood] at h
    cases hfound : span (Text.lower text) a c.today with
    | none => rw [hfound] at h; cases h
    | beforeCalendar => rw [hfound] at h; cases h
    | window found => rw [hfound] at h; rw [Option.some.inj h]
  unfold span at hspan
  split at hspan
  · split at hspan
    · exact ⟨_, hspan⟩
    · cases hspan
  · exact ⟨_, hspan⟩

/-- The window that was understood is seen from today. -/
theorem seenFrom_window {w : Window} (h : (c.understood text a).window = some w) :
    w.SeenFrom c.today := by
  obtain ⟨_, hspan⟩ := c.exists_wording text a h
  exact Rules.seenFrom_span hspan

/-- What is understood of a request comes down to an open choice. -/
theorem exists_choice : ∃ x : Choice, x.Open c ∧ x.Settles text (c.understood text a) := by
  obtain ⟨e, he, hresolve⟩ := c.catalog.resolve_mem a.dataEntity text
  have hsource : (c.understood text a).source = e.toRef := by
    simp only [understood, hresolve]
  have haggregation : ∀ spec ∈ (c.understood text a).aggregation, Rules.Tabled spec := by
    simp only [understood]
    exact fun _ h => tabled_aggregation h
  have hwindow : ∀ w ∈ (c.understood text a).window, w.SeenFrom c.today := fun _ h =>
    c.seenFrom_window text a h
  have hgenerate : ∀ (g : Generator) (d : Dialect), g.generate (c.understood text a) d =
      g.generate ((Choice.mk e (c.understood text a).aggregation
        (c.understood text a).window).query text) d := by
    intro g d
    apply g.generate_congr d <;>
      simp only [understood, Choice.query, Rules.presentation, hresolve]
  generalize c.understood text a = q at hsource haggregation hwindow hgenerate ⊢
  exact ⟨⟨e, q.aggregation, q.window⟩, ⟨he, haggregation, hwindow⟩,
    hsource, rfl, rfl, hgenerate⟩

/-- Two understandings of a request agree on what the request says by itself. -/
theorem agreeOn_understood :
    Query.AgreeOn text c.today (c.understood text a) (c.understood text a') := by
  have haggregation : ∀ (b : Analysis) (found : Aggregation),
      Rules.aggregation? (Text.lower text) = some found →
        aggregation? (Text.lower text) b = some found := by
    intro b found hfound
    unfold aggregation?
    rw [hfound]
    rfl
  have hwindow : ∀ (b : Analysis) (w : Window), Rules.span (Text.lower text) c.today = .window w →
      span (Text.lower text) b c.today = .window w := by
    intro b w hw
    unfold span
    rw [hw]
  constructor
  case aggregation =>
    intro found hfound
    simp only [understood, Rules.presentation, haggregation _ found hfound, and_self]
  case window =>
    intro w hw
    simp only [understood, hwindow _ w hw, Rules.Span.window?, and_self]
  all_goals simp only [understood, Rules.presentation]

/-- A model cannot write statements.  Whatever it answers, the queries of a request agree on all
that the request says, and each of them generates what the request and an open choice generate. -/
theorem compile_confines {c : Compiler} (hday : c.today ≠ Date.first) (text : String)
    (answer answer' : ModelAnswer) :
    ∃ q q', c.compile text answer = .ok q ∧ c.compile text answer' = .ok q' ∧
      Query.AgreeOn text c.today q q' ∧
      (∃ x : Choice, x.Open c ∧ x.Settles text q) ∧ ∃ x : Choice, x.Open c ∧ x.Settles text q' :=
  ⟨_, _, compile_eq hday text answer, compile_eq hday text answer',
    c.agreeOn_understood text _ _, c.exists_choice text _, c.exists_choice text _⟩

/-- A reply that asks for more than a window, beside a model that fails. -/
theorem compile_confines_spring :
    ∃ q q', spring.compile "totals per city"
        (.ok "\x7b\"time_range\": \"last 9 days; DROP TABLE user_info\"\x7d") = .ok q ∧
      spring.compile "totals per city" (.error (.model .emptyResponse)) = .ok q' ∧
      Query.AgreeOn "totals per city" spring.today q q' ∧
      (∃ x : Choice, x.Open spring ∧ x.Settles "totals per city" q) ∧
      ∃ x : Choice, x.Open spring ∧ x.Settles "totals per city" q' :=
  compile_confines (by decide) "totals per city" _ _

end Compiler

end QueryDesk
