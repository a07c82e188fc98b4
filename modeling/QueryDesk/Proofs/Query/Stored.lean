import QueryDesk.Proofs.Calendar.DateText
import QueryDesk.Proofs.Json.Records
import QueryDesk.Proofs.Sql.Generation
import QueryDesk.Proofs.Sql.Predicates
import QueryDesk.Query.Codec

/-!
# Queries read back

A query that is written as JSON and read again is the same query, as long as its doubles are finite
(`Query.ofJson?_toJson_of_finite`).  There is one lemma for each type a query is made of.  A record
follows from its fields; the two types that carry no tag are told apart by what they are written as:
a literal by its kind of value, an operand by being an object, a list or neither
(`Literal.toJson_scalar`).
-/

namespace QueryDesk

open Json

/-! ## Names -/

theorem Operator.ofJson?_toJson (o : Operator) : ofJson? o.toJson = some o := by
  cases o <;> rfl

theorem Join.ofJson?_toJson (j : Join) : ofJson? j.toJson = some j := by
  cases j <;> rfl

theorem Format.ofJson?_toJson (f : Format) : ofJson? f.toJson = some f := by
  cases f <;> rfl

theorem SortDirection.ofJson?_toJson (d : SortDirection) : ofJson? d.toJson = some d := by
  cases d <;> rfl

theorem Intent.ofJson?_toJson (i : Intent) : ofJson? i.toJson = some i := by
  cases i <;> rfl

theorem Entity.ofJson?_toJson (e : Entity) : ofJson? e.toJson = some e := by
  cases e <;> rfl

theorem EngineKind.ofJson?_toJson (k : EngineKind) : ofJson? k.toJson = some k := by
  cases k <;> rfl

/-! ## Conditions -/

theorem Literal.ofJson?_toJson {l : Literal} (h : l.Finite) : ofJson? l.toJson = some l := by
  cases l with
  | bool b => rfl
  | int n => simp only [toJson, ofJson?, int64?_toInt]
  | float x =>
    rw [toJson, ofFloat_of_finite h]
    rfl
  | text s => rfl

/-- A literal is written as neither an object nor a list. -/
theorem Literal.toJson_scalar (l : Literal) :
    (∀ ms, l.toJson ≠ .obj ms) ∧ ∀ items, l.toJson ≠ .arr items := by
  cases l with
  | float x =>
    by_cases hx : x.isFinite = true
    · rw [toJson, ofFloat_of_finite hx]
      exact ⟨nofun, nofun⟩
    · have hnull : ofFloat x = .null := if_neg hx
      rw [toJson, hnull]
      exact ⟨nofun, nofun⟩
  | _ => exact ⟨nofun, nofun⟩

theorem Operand.ofJson?_toJson {v : Operand} (h : ∀ l ∈ v.literals, l.Finite) :
    ofJson? v.toJson = some v := by
  cases v with
  | range low high =>
    have hlow : low.Finite := h low (by simp [literals])
    have hhigh : high.Finite := h high (by simp [literals])
    simp [toJson, ofJson?, Members.get?, Literal.ofJson?_toJson hlow,
      Literal.ofJson?_toJson hhigh]
  | list items =>
    have hitems : (items.map Literal.toJson).mapM Literal.ofJson? = some items :=
      mapM_map_of_forall fun l hl => Literal.ofJson?_toJson (h l hl)
    simp only [toJson, ofJson?, hitems, Option.map_some]
  | single value =>
    have hvalue := Literal.ofJson?_toJson (h value (List.mem_singleton_self value))
    obtain ⟨hobj, harr⟩ := value.toJson_scalar
    unfold toJson ofJson?
    split
    · next ms hms => exact absurd hms (hobj ms)
    · next items hitems => exact absurd hitems (harr items)
    · rw [hvalue, Option.map_some]

theorem Condition.ofJson?_toJson {c : Condition} (h : ∀ l ∈ c.value.literals, l.Finite) :
    ofJson? c.toJson = some c := by
  simp [ofJson?, toJson, slots?_cons, Operator.ofJson?_toJson, Operand.ofJson?_toJson h,
    Join.ofJson?_toJson]

/-! ## Aggregation and window -/

theorem Aggregate.ofJson?_toJson (a : Aggregate) : ofJson? a.toJson = some a := by
  simp [ofJson?, toJson, slots?_cons]

theorem Aggregation.ofJson?_toJson (a : Aggregation) : ofJson? a.toJson = some a := by
  have haggregates : list? Aggregate.ofJson? (.arr (a.aggregates.map Aggregate.toJson)) =
      some a.aggregates := list?_arr fun x _ => x.ofJson?_toJson
  simp [ofJson?, toJson, slots?_cons, haggregates]

theorem Date.ofJson?_toJson (d : Date) : ofJson? d.toJson = some d := by
  rw [ofJson?, toJson, asString?_str, Option.bind_some, ofText?_text]

theorem Date.optional_ofOption (o : Option Date) :
    (Slot.present (.ofOption toJson o)).optional ofJson? = some o :=
  Slot.optional_ofOption rfl fun d _ => d.ofJson?_toJson

theorem Window.ofKind?_relative {rest : Json} {s : Slot Json} {days : UInt32}
    (hslots : slots? ["days"] rest = some [s]) (hdays : s.required uint32? = some days) :
    ofKind? "relative" rest = some (.relative days) := by
  simp [ofKind?, hslots, hdays]

-- the days stand for any value here: with a written word in their place, checking that the kind is
-- found would unfold the word
theorem Window.ofJson?_relative (days : Json) :
    ofJson? (.obj [("kind", .str "relative"), ("days", days)]) =
      ofKind? "relative" (.obj [("kind", .str "relative"), ("days", days)]) := by
  rw [ofJson?, Members.get?_cons_self]
  rfl

theorem Window.ofJson?_toJson (w : Window) : ofJson? w.toJson = some w := by
  cases w with
  | absolute start stop =>
    simp [ofJson?, toJson, Members.get?_cons_self, ofKind?, slots?_pass, slots?_cons,
      Date.optional_ofOption]
  | relative days =>
    have hslots : slots? ["days"] (.obj [("kind", .str "relative"), ("days", .ofNat days.toNat)]) =
        some [.present (.ofNat days.toNat)] := by
      rw [slots?_pass (by decide), slots?_cons (by decide), slots?_nil, Option.map_some]
    have hdays : (Slot.present (.ofNat days.toNat)).required uint32? = some days := by
      rw [Slot.required_present, uint32?_ofNat]
    rw [toJson, ofJson?_relative]
    exact ofKind?_relative hslots hdays

/-! ## The other parts -/

@[simp] theorem optional_string (o : Option String) :
    (Slot.present (.ofOption .str o)).optional asString? = some o :=
  Slot.optional_ofOption rfl fun _ _ => rfl

theorem optional_word (o : Option UInt64) :
    (Slot.present (.ofOption (fun n => .ofNat n.toNat) o)).optional asWord? = some o :=
  Slot.optional_ofOption rfl fun n _ => asWord?_ofNat n

theorem Presentation.ofJson?_toJson (p : Presentation) : ofJson? p.toJson = some p := by
  simp [ofJson?, toJson, slots?_cons, Format.ofJson?_toJson, optional_word,
    SortDirection.ofJson?_toJson]

theorem Analysis.ofJson?_toJson (a : Analysis) : ofJson? a.toJson = some a := by
  simp [ofJson?, toJson, slots?_cons]

theorem SourceRef.ofJson?_toJson (r : SourceRef) : ofJson? r.toJson = some r := by
  simp [ofJson?, toJson, slots?_cons, EngineKind.ofJson?_toJson]

theorem IntentParameters.ofJson?_toJson (p : IntentParameters) : ofJson? p.toJson = some p := by
  have hentity : (Slot.present (.ofOption Entity.toJson p.entity)).optional Entity.ofJson? =
      some p.entity := Slot.optional_ofOption rfl fun e _ => e.ofJson?_toJson
  simp [ofJson?, toJson, slots?_cons, optional_word, hentity]

theorem IntentResult.ofJson?_toJson {r : IntentResult} (h : r.confidence.isFinite = true) :
    ofJson? r.toJson = some r := by
  simp [ofJson?, toJson, slots?_cons, Intent.ofJson?_toJson, asFloat?_ofFloat h,
    IntentParameters.ofJson?_toJson]

/-! ## Queries -/

/-- A query all of whose doubles are finite. -/
structure Query.Finite (q : Query) : Prop where
  intent : q.intent.confidence.isFinite = true
  literals : ∀ c ∈ q.conditions, ∀ l ∈ c.value.literals, l.Finite
  confidence : q.confidence.isFinite = true

/-- A query survives JSON.  When its doubles are finite, it is written as a value that is read as
the same query: every literal of the kind it was, every operand of its shape, every date of the
calendar, and every other part as it was. -/
theorem Query.ofJson?_toJson_of_finite {q : Query} (h : q.Finite) : ofJson? q.toJson = some q := by
  have hconditions : list? Condition.ofJson? (.arr (q.conditions.map Condition.toJson)) =
      some q.conditions := list?_arr fun c hc => Condition.ofJson?_toJson (h.literals c hc)
  have haggregation : (Slot.present (.ofOption Aggregation.toJson q.aggregation)).optional
      Aggregation.ofJson? = some q.aggregation :=
    Slot.optional_ofOption rfl fun a _ => a.ofJson?_toJson
  have hwindow : (Slot.present (.ofOption Window.toJson q.window)).optional Window.ofJson? =
      some q.window := Slot.optional_ofOption rfl fun w _ => w.ofJson?_toJson
  simp [ofJson?, toJson, slots?_cons, IntentResult.ofJson?_toJson h.intent,
    SourceRef.ofJson?_toJson, hconditions, haggregation, hwindow, Presentation.ofJson?_toJson,
    Analysis.ofJson?_toJson, asFloat?_ofFloat h.confidence]

/-- A query with a literal of each kind, an operand of each shape, and dates on both sides of the
four-digit years. -/
def storedVisits : Query where
  originalText := "visits with a score of 1.0"
  intent := ⟨.filter, 0.5, ⟨some "all time", none, some 10, some .user⟩, "visits"⟩
  source := ⟨"logs", .presto, "user_logs", none, some "/logs", "date"⟩
  conditions := [
    ⟨"score", .eq, .single (.float 1.0), .and⟩,
    ⟨"code", .eq, .single (.text "12"), .or⟩,
    ⟨"age", .between, .range (.int 18) (.int (-1)), .and⟩,
    ⟨"city", .isIn, .list [], .and⟩,
    ⟨"active", .isIn, .list [.bool true, .text "true"], .and⟩]
  aggregation := some ⟨["city"], [⟨"total", "COUNT(*)"⟩]⟩
  window := some (.absolute (some ⟨-44, 3, 15, by decide⟩) (some ⟨12024, 2, 29, by decide⟩))
  output := ⟨.chart, some 5, some "total", .asc⟩
  analysis := ⟨none, some "filter", none, none, none, none, none, true⟩
  description := ""
  confidence := 1.0

theorem ofJson?_storedVisits : Query.ofJson? storedVisits.toJson = some storedVisits :=
  Query.ofJson?_toJson_of_finite
    { intent := by decide
      literals := by simp [storedVisits, Operand.literals, Literal.Finite]; decide
      confidence := by decide }

end QueryDesk
