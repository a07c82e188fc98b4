import Mathlib.Data.Rat.Cast.Order
import Mathlib.Tactic.NormNum
import QueryDesk.Proofs.Sql.SelectList
import QueryDesk.Proofs.Understanding.Extraction
import QueryDesk.Proofs.Understanding.Influence

/-!
# What every compiled request satisfies

The generator, the cost estimate and the envelope take a compiled request as it comes.  What they
can rely on is collected in `Query.Coherent`, and every request has it, whatever the model answers
(`compile_coherent`).  Each part belongs to one rule: the tables of conditions and aggregates are
walked through by folds that keep names apart (`nodup_conditions`, `sound_aggregation`), a window is
read off the day it is seen from (`Window.SeenFrom.sound`), and a field of an analysis that would be
empty is left out (`analyze_fields`).  Where a rule is applied to the model's wording instead of the
request's, the same lemma covers it, since nothing is assumed about the text.

Confidences are added up by the machine.  That the boosts only raise them is a fact about exact
numbers, so `Compiler.boosted` is taken at the rationals there (`boosted_bounds`).
-/

namespace QueryDesk

open Sql

/-! ## Conditions -/

namespace Rules

/-- A field is taken by the first rule that applies to it. -/
theorem nodup_conditions (lowered : String) : ((conditions lowered).map (·.field)).Nodup := by
  unfold conditions
  -- Of any rules at all: with the table in place, unification would run the fold.
  generalize Vocabulary.conditionRules = rules
  refine List.foldlRecOn (motive := fun (found : List Condition) => (found.map (·.field)).Nodup)
    rules _ (b := []) List.nodup_nil ?_
  intro found hfound row _
  dsimp only
  split
  · exact hfound
  · next hfree =>
    have hnew : row.2.1 ∉ found.map (·.field) := by
      intro hmem
      obtain ⟨c, hc, hfield⟩ := List.mem_map.mp hmem
      have hany : found.any (·.field == row.2.1) = true :=
        List.any_eq_true.mpr ⟨c, hc, beq_iff_eq.mpr hfield⟩
      exact hfree (by rw [hany, Bool.true_or])
    rw [List.map_append, List.map_singleton]
    refine List.nodup_append.mpr ⟨hfound, List.pairwise_singleton _ _, ?_⟩
    rintro field hfield _ hrow rfl
    rw [List.mem_singleton.mp hrow] at hfield
    exact hnew hfield

end Rules

/-! ## Aggregations -/

namespace Aggregation

/-- At most one grouping field, and labels that differ. -/
structure Apart (a : Aggregation) : Prop where
  groupBy : a.groupBy.length ≤ 1
  labels : (a.aggregates.map (·.label)).Nodup

theorem Apart.empty : Apart .empty := ⟨Nat.zero_le 1, List.nodup_nil⟩

theorem Apart.single (field : String) : Apart (Aggregation.empty.withGroupBy field) :=
  ⟨Nat.le_refl 1, List.nodup_nil⟩

theorem Apart.withAggregate {a : Aggregation} (h : a.Apart) (label function : String) :
    (a.withAggregate label function).Apart :=
  ⟨h.groupBy, nodup_putAggregate ⟨label, function⟩ h.labels⟩

/-- An aggregation with something in it, whose parts are kept apart. -/
structure Sound (a : Aggregation) : Prop extends Apart a where
  nonempty : a.isEmpty = false

end Aggregation

theorem Rules.sound_aggregation {lowered : String} {a : Aggregation}
    (h : aggregation? lowered = some a) : a.Sound := by
  unfold aggregation? at h
  split at h
  · obtain ⟨hnonempty, h⟩ := Option.ite_none_left_eq_some.mp h
    rw [← Option.some.inj h]
    refine ⟨?_, Bool.eq_false_iff.mpr hnonempty⟩
    refine List.foldlRecOn (motive := Aggregation.Apart) Vocabulary.aggregateFunctions _ ?_ ?_
    · split
      · exact .single _
      · exact .empty
    · intro spec hspec row _
      dsimp only
      split
      · exact hspec.withAggregate _ _
      · exact hspec
  · cases h

/-! ## Windows -/

/-- A window of at least one day, or one whose bounds are in order and not after a day. -/
inductive Window.Sound (today : Date) : Window → Prop
  | relative {days : UInt32} (hdays : 1 ≤ days.toNat) : Sound today (.relative days)
  | absolute {start : Date} {stop : Option Date} (hstart : start.number ≤ today.number)
      (hstop : ∀ last ∈ stop, start.number ≤ last.number ∧ last.number ≤ today.number) :
      Sound today (.absolute (some start) stop)

theorem Rules.dayCount?_pos {lowered : String} {days : UInt32} (h : dayCount? lowered = some days) :
    1 ≤ days.toNat := by
  unfold dayCount? at h
  split at h
  · next n _ =>
    obtain ⟨⟨hpos, hfits⟩, h⟩ := Option.ite_none_right_eq_some.mp h
    rw [← Option.some.inj h, UInt32.toNat_ofNat_of_lt' hfits]
    exact hpos
  · cases h

theorem Vocabulary.fixedWindows_pos : ∀ row ∈ fixedWindows, 1 ≤ row.2.toNat := by decide

theorem Rules.relative_pos {lowered : String} {today : Date} {days : UInt32}
    (h : span lowered today = .window (.relative days)) : 1 ≤ days.toNat := by
  unfold span at h
  split at h
  · next hcount =>
    cases h
    exact dayCount?_pos hcount
  split at h
  · split at h <;> cases h
  split at h
  · cases h
  split at h
  · next hfind =>
    cases h
    exact Vocabulary.fixedWindows_pos _ (List.mem_of_find?_eq_some hfind)
  split at h
  · cases h
  split at h <;> cases h

/-- A window that is seen from a day keeps to the days up to it. -/
theorem Window.SeenFrom.sound {today : Date} {w : Window} (h : w.SeenFrom today)
    (hdays : ∀ days, w = .relative days → 1 ≤ days.toNat) : w.Sound today := by
  have hday : ∀ d : Date, d.number ≤ today.number → (Window.day d).Sound today := by
    intro d hd
    refine .absolute hd fun last hlast => ?_
    obtain rfl := Option.mem_some_iff.mp hlast
    exact ⟨Int.le_refl _, hd⟩
  cases h with
  | relative days => exact .relative (hdays days rfl)
  | yesterday hyesterday =>
    have hnumber := Date.minusDays?_eq_some_iff.mp hyesterday
    exact hday _ (by omega)
  | today => exact hday today (Int.le_refl _)
  | month => exact .absolute today.firstOfMonth_le fun _ h => (nomatch h)
  | year => exact .absolute today.firstOfYear_le fun _ h => (nomatch h)

/-! ## Texts of values -/

theorem Decimal.digitsOf_ne_nil (n : Nat) : digitsOf n ≠ [] := Nat.toDigits_ne_nil

theorem Decimal.positional_ne_nil (zeroFraction : Bool) (d : Scaled) :
    positional zeroFraction d ≠ [] := by
  unfold positional
  dsimp only
  split
  · exact List.append_ne_nil_of_left_ne_nil
      (List.append_ne_nil_of_left_ne_nil (digitsOf_ne_nil _) _) _
  · split
    · exact List.append_ne_nil_of_right_ne_nil _ (List.cons_ne_nil _ _)
    · exact List.cons_ne_nil _ _

theorem Decimal.scientific_ne_nil (d : Scaled) (lead : Int) : scientific d lead ≠ [] := by
  unfold scientific
  dsimp only
  split
  · next hnil => exact absurd hnil (digitsOf_ne_nil _)
  · exact List.cons_ne_nil _ _
  · exact List.cons_ne_nil _ _

theorem Decimal.Layout.float_ne_nil (layout : Layout) (x : Float) : layout.float x ≠ [] := by
  refine List.append_ne_nil_of_right_ne_nil _ ?_
  unfold magnitude
  split
  · exact positional_ne_nil _ _
  · split
    · exact positional_ne_nil _ _
    · exact scientific_ne_nil _ _

theorem Decimal.intText_ne_nil (n : Int) : intText n ≠ [] := by
  cases n with
  | ofNat k => exact digitsOf_ne_nil k
  | negSucc k => exact List.cons_ne_nil _ _

theorem Json.render_ne_nil (j : Json) : j.render ≠ [] := by
  cases j with
  | null => exact List.cons_ne_nil _ _
  | bool b => cases b <;> exact List.cons_ne_nil _ _
  | int n => exact Decimal.intText_ne_nil n
  | float x =>
    unfold render floatText
    split
    · exact Decimal.Layout.float_ne_nil _ x
    · exact List.cons_ne_nil _ _
  | str s => exact List.cons_ne_nil _ _
  | arr items => exact List.cons_ne_nil _ _
  | obj ms => exact List.cons_ne_nil _ _

theorem Json.compact_ne_empty (j : Json) : j.compact ≠ "" := by
  intro h
  have hlist : j.compact.toList = [] := String.toList_eq_nil_iff.mpr h
  rw [compact, String.toList_ofList] at hlist
  exact j.render_ne_nil hlist

/-! ## Analyses -/

/-- The texts of an analysis. -/
def Analysis.fields (a : Analysis) : List (Option String) :=
  [a.dataEntity, a.queryType, a.conditions, a.aggregations, a.timeRange, a.outputRequirements,
    a.description]

theorem Reply.FieldText.ne_empty {v : Option Json} {o : Option String} (h : FieldText v o) :
    o ≠ some "" := by
  intro ho
  cases h with
  | missing | null | blank | emptyArray | emptyObject => cases ho
  | @text s hblank =>
    rw [← isEmpty_trimmed, Option.some.inj ho] at hblank
    exact absurd hblank (by decide)
  | @value v => exact v.compact_ne_empty (Option.some.inj ho)

theorem Reply.analysisOf_fields (ms : Json.Members) :
    ∀ field ∈ (analysisOf ms).fields, field ≠ some "" := by
  have htext : ∀ key, (Json.Members.get? key ms).bind fieldText? ≠ some "" := fun key =>
    (fieldText_bind _).ne_empty
  simp only [Analysis.fields, analysisOf, List.forall_mem_cons]
  exact ⟨htext _, htext _, htext _, htext _, htext _, htext _, htext _,
    fun _ h => absurd h List.not_mem_nil⟩

theorem Classifier.firstPhrase?_ne_empty {phrases : List String} (h : "" ∉ phrases)
    (lowered : String) : firstPhrase? lowered phrases ≠ some "" := fun hfind =>
  h (List.mem_of_find?_eq_some hfind)

theorem Prompt.fallbackAnalysis_fields (text : String) :
    ∀ field ∈ (fallbackAnalysis (Classifier.classify text)).fields, field ≠ some "" := by
  have hnone : (none : Option String) ≠ some "" := (Option.some_ne_none _).symm
  have hentity : ∀ e : Option Entity, e.map Entity.name ≠ some "" := by
    intro e
    cases e with
    | none => exact hnone
    | some e => cases e <;> decide
  have hname : ∀ i : Intent, some i.name ≠ some "" := by
    intro i
    cases i <;> decide
  have hdescription : ∀ i : Intent, some (plainDescription i) ≠ some "" := by
    intro i
    cases i <;> decide
  have haggregation :
      Classifier.firstPhrase? (Text.lower text) Vocabulary.aggregateNames ≠ some "" :=
    Classifier.firstPhrase?_ne_empty (by decide) _
  have htime : Classifier.firstPhrase? (Text.lower text) Vocabulary.timeRanges ≠ some "" :=
    Classifier.firstPhrase?_ne_empty (by decide) _
  simp only [Analysis.fields, fallbackAnalysis, List.forall_mem_cons, Classifier.classify,
    IntentResult.make, Classifier.parameters]
  exact ⟨hentity _, hname _, hnone, haggregation, htime, hnone,
    hdescription _, fun _ h => absurd h List.not_mem_nil⟩

/-- Nothing empty is understood of a request, whatever the model answers. -/
theorem Compiler.analyze_fields (text : String) (answer : ModelAnswer) :
    ∀ field ∈ (analyze (Classifier.classify text) answer).fields, field ≠ some "" := by
  unfold analyze
  split
  · next reply =>
    split
    · next a hreply =>
      obtain ⟨object, -, hreply⟩ := bind_eq_ok.mp hreply
      split at hreply
      · obtain rfl := pure_eq_ok.mp hreply
        exact Reply.analysisOf_fields _
      · cases hreply
    · exact Prompt.fallbackAnalysis_fields text
  · exact Prompt.fallbackAnalysis_fields text

/-! ## Intents and confidences -/

/-- An intent without words is never the best. -/
theorem Classifier.verdict_ne_unknown (lowered : String) : (verdict lowered).1 ≠ .unknown := by
  unfold verdict
  split
  · next i n hbest =>
    obtain ⟨hpos, hscore⟩ := bestOf_spec i n hbest
    rintro rfl
    exact absurd hscore (Nat.ne_of_gt hpos)
  · exact Intent.noConfusion

/-- A share of words as a confidence, without rounding. -/
def Classifier.exactConfidence (share : Nat × Nat) : ℚ := min (share.1 / share.2) 1

namespace Compiler

theorem boosts_nonneg (a : Analysis) : ∀ x ∈ (boosts a : List ℚ), 0 ≤ x := by
  have hboost : ∀ (b : Bool) (y : ℚ), 0 ≤ y → ∀ x ∈ (if b then [y] else []), 0 ≤ x := by
    intro b y hy x hx
    cases b with
    | false => exact absurd hx List.not_mem_nil
    | true => exact List.mem_singleton.mp hx ▸ hy
  intro x hx
  simp only [boosts, List.mem_append] at hx
  rcases hx with (hx | hx) | hx
  · exact hboost _ _ (by norm_num) x hx
  · exact hboost _ _ (by norm_num) x hx
  · exact hboost _ _ (by norm_num) x hx

/-- Boosts raise a confidence, and to one at most. -/
theorem boosted_bounds {base : ℚ} (hbase : base ≤ 1) (a : Analysis) :
    base ≤ boosted base a ∧ boosted base a ≤ 1 := by
  have hsum : base ≤ (boosts a).foldl (· + ·) base :=
    List.foldlRecOn (motive := fun sum => base ≤ sum) (boosts a) _ (le_refl base)
      fun sum hsum x hx => hsum.trans (le_add_of_nonneg_right (boosts_nonneg a x hx))
  unfold boosted
  dsimp only
  split
  · next hlt => exact ⟨hsum, by norm_num at hlt; exact hlt.le⟩
  · norm_num
    exact hbase

end Compiler

/-- The confidences of a query are those of a share of words: the finding's is the share, and the
query's is the finding's with the boosts, which lies between it and one where nothing is rounded. -/
structure Query.Confident (q : Query) (share : Nat × Nat) : Prop where
  found : q.intent.confidence =
    IntentResult.clampConfidence (Classifier.confidence share.1 share.2)
  combined : q.confidence = Compiler.boosted q.intent.confidence q.analysis
  lower : Classifier.exactConfidence share ≤
    Compiler.boosted (Classifier.exactConfidence share) q.analysis
  upper : Compiler.boosted (Classifier.exactConfidence share) q.analysis ≤ 1

/-! ## Sort fields -/

namespace Sql

/-- The aggregates of a query are shown under their labels. -/
theorem Generator.label_mem_outputNames {q : Query} {a : Aggregation} {x : Aggregate}
    {cs : List Column} {fields : List Identifier} (ha : q.aggregation = some a)
    (hx : x ∈ a.aggregates) (h : columns q = .ok (cs, fields)) :
    x.label ∈ (Selection.columns cs).outputNames := by
  have hnames := (columns_listed h).names
  rw [ha, Option.getD_some] at hnames
  rw [Selection.outputNames, hnames]
  exact List.mem_append_left _ (List.mem_map_of_mem hx)

end Sql

/-- A name that the main and the sample statement show a column under, in every dialect; the
statement that counts has one column of its own and no order. -/
def Query.Shows (q : Query) (name : String) : Prop :=
  ∀ (g : Generator) (d : Dialect) (b : SqlBundle), g.generate q d = .ok b →
    ∃ s, g.statements q d = .ok s ∧
      b.sql = s.main.sql ∧ b.countSql = s.count.sql ∧ b.sampleSql = s.sample.sql ∧
      name ∈ s.main.selection.outputNames ∧ name ∈ s.sample.selection.outputNames ∧
      s.count.selection = .rowCount ∧ s.count.order = none

theorem Query.shows_label {q : Query} {a : Aggregation} {x : Aggregate}
    (ha : q.aggregation = some a) (hx : x ∈ a.aggregates) : q.Shows x.label := by
  intro g d b hb
  obtain ⟨s, hs, -, rfl⟩ := Generator.generate_eq_ok_iff.mp hb
  obtain ⟨source, cs, fields, filter, order, -, hcolumns, -, -, rfl⟩ :=
    Generator.statements_eq_ok_iff.mp hs
  have hlabel := Generator.label_mem_outputNames ha hx hcolumns
  exact ⟨_, hs, rfl, rfl, rfl, hlabel, hlabel, rfl, rfl⟩

/-- A query is sorted exactly if it ranks and has an aggregate, and then by the label of the first,
which its statements show. -/
structure Query.SortedByFirst (q : Query) : Prop where
  sorted_iff : q.output.sortBy.isSome = true ↔
    q.intent.intent = .ranking ∧ ∃ a, q.aggregation = some a ∧ a.aggregates ≠ []
  first : ∀ field, q.output.sortBy = some field →
    ∃ a x, q.aggregation = some a ∧ a.aggregates.head? = some x ∧ field = x.label
  shown : ∀ field, q.output.sortBy = some field → q.Shows field

theorem Query.sortedByFirst {q : Query} (h : q.output.sortBy = if q.intent.intent = .ranking then
    (q.aggregation.bind (·.aggregates.head?)).map (·.label) else none) : q.SortedByFirst := by
  have hfirst : ∀ field, q.output.sortBy = some field →
      q.intent.intent = .ranking ∧
        ∃ a x, q.aggregation = some a ∧ a.aggregates.head? = some x ∧ field = x.label := by
    intro field hfield
    rw [h] at hfield
    obtain ⟨hranking, hfield⟩ := Option.ite_none_right_eq_some.mp hfield
    obtain ⟨x, hx, hlabel⟩ := Option.map_eq_some_iff.mp hfield
    obtain ⟨a, ha, hhead⟩ := Option.bind_eq_some_iff.mp hx
    exact ⟨hranking, a, x, ha, hhead, hlabel.symm⟩
  constructor
  case sorted_iff =>
    constructor
    · intro hsome
      obtain ⟨field, hfield⟩ := Option.isSome_iff_exists.mp hsome
      obtain ⟨hranking, a, x, ha, hhead, -⟩ := hfirst field hfield
      exact ⟨hranking, a, ha, List.ne_nil_of_mem (List.mem_of_head? hhead)⟩
    · rintro ⟨hranking, a, ha, hne⟩
      obtain ⟨x, rest, hx⟩ := List.exists_cons_of_ne_nil hne
      rw [h, if_pos hranking, ha, Option.bind_some, hx]
      rfl
  case first => exact fun field hfield => (hfirst field hfield).2
  case shown =>
    intro field hfield
    obtain ⟨-, a, x, ha, hhead, rfl⟩ := hfirst field hfield
    exact Query.shows_label ha (List.mem_of_head? hhead)

/-! ## Compiled requests -/

/-- What a request compiled from a text satisfies. -/
structure Query.Coherent (c : Compiler) (text : String) (q : Query) : Prop where
  equalities : ∀ x ∈ q.conditions,
    x.operator = .eq ∧ (∃ value, x.value = .single value) ∧ x.join = .and
  distinct : (q.conditions.map (·.field)).Nodup
  aggregation : ∀ a, q.aggregation = some a → a.Sound
  sorting : q.SortedByFirst
  window : ∀ w, q.window = some w → w.Sound c.today
  intent : q.intent.intent ≠ .unknown
  source : ∃ e ∈ c.catalog.fallback :: c.catalog.entries, q.source = e.toRef
  analysis : ∀ field ∈ q.analysis.fields, field ≠ some ""
  confidence : q.Confident (Classifier.verdict (Text.lower text)).2

namespace Compiler

theorem coherent_understood (c : Compiler) (text : String) {a : Analysis}
    (ha : ∀ field ∈ a.fields, field ≠ some "") :
    Query.Coherent c text (c.understood text a) := by
  constructor
  case equalities =>
    intro x hx
    simp only [understood] at hx
    obtain ⟨row, -, rfl⟩ := Rules.mem_conditions x hx
    exact ⟨rfl, ⟨_, rfl⟩, rfl⟩
  case distinct =>
    simp only [understood]
    exact Rules.nodup_conditions _
  case aggregation =>
    intro spec hspec
    simp only [understood] at hspec
    obtain ⟨_, hfound⟩ := aggregation?_eq_some hspec
    exact Rules.sound_aggregation hfound
  case sorting =>
    refine Query.sortedByFirst ?_
    simp only [understood, Rules.presentation]
    rfl
  case window =>
    intro w hw
    obtain ⟨_, hfound⟩ := c.exists_wording text a hw
    refine (c.seenFrom_window text a hw).sound ?_
    rintro days rfl
    exact Rules.relative_pos hfound
  case intent =>
    simp only [understood, Classifier.classify, IntentResult.make]
    exact Classifier.verdict_ne_unknown _
  case source =>
    obtain ⟨e, he, hresolve⟩ := c.catalog.resolve_mem a.dataEntity text
    refine ⟨e, he, ?_⟩
    simp only [understood, hresolve]
  case analysis =>
    simp only [understood]
    exact ha
  case confidence =>
    have hbounds := boosted_bounds
      (min_le_right _ _ : Classifier.exactConfidence (Classifier.verdict (Text.lower text)).2 ≤ 1) a
    constructor
    case found =>
      simp only [understood]
      exact confidence_classify text
    case combined => simp only [understood]
    case lower =>
      simp only [understood]
      exact hbounds.1
    case upper =>
      simp only [understood]
      exact hbounds.2

/-- Every request compiles, and what it compiles to is coherent, whatever the model answers. -/
theorem compile_coherent {c : Compiler} (hday : c.today ≠ Date.first) (text : String)
    (answer : ModelAnswer) :
    ∃ q, c.compile text answer = .ok q ∧ Query.Coherent c text q :=
  ⟨_, compile_eq hday text answer, c.coherent_understood text (analyze_fields text answer)⟩

/-- A ranking by an aggregate, with the model out of reach. -/
theorem compile_coherent_ranking : ∃ q,
    spring.compile "highest per day" (.error (.model .emptyResponse)) = .ok q ∧
      Query.Coherent spring "highest per day" q :=
  compile_coherent (by decide) "highest per day" _

/-- The statement that counts the rows of the ranking does not show the sort field. -/
theorem ranking_counted_without_label : ∃ q b s,
    spring.compile "highest per day" (.error (.model .emptyResponse)) = .ok q ∧
      q.output.sortBy = some "max_amount" ∧
      (Generator.mk 5 spring.today).generate q .hive = .ok b ∧
      (Generator.mk 5 spring.today).statements q .hive = .ok s ∧ b.countSql = s.count.sql ∧
      s.count.selection.sql = "COUNT(*) AS total_count" ∧
      "max_amount" ∉ s.count.selection.outputNames := by
  have hcompile := compile_eq (c := spring) (by decide) "highest per day"
    (.error (.model .emptyResponse))
  have htabled := tabled_understood (c := spring) plain_standard "highest per day"
    (analyze (Classifier.classify "highest per day") (.error (.model .emptyResponse)))
  have hparts : ((spring.understood "highest per day" (analyze
        (Classifier.classify "highest per day") (.error (.model .emptyResponse)))).output.sortBy,
      (spring.understood "highest per day" (analyze
        (Classifier.classify "highest per day") (.error (.model .emptyResponse)))).window) =
      (some "max_amount", none) := by decide +kernel
  generalize spring.understood "highest per day" _ = q at hcompile htabled hparts
  obtain ⟨hsort, hwindow⟩ := Prod.mk.inj hparts
  obtain ⟨b, hb, -⟩ := htabled.exists_bundle ⟨5, spring.today⟩ .hive fun w hw => by
    rw [hwindow] at hw
    cases hw
  obtain ⟨s, hs, -, hbundle⟩ := Generator.generate_eq_ok_iff.mp hb
  have hcounted : s.count.selection = .rowCount := by
    obtain ⟨_, _, _, _, _, -, -, -, -, rfl⟩ := Generator.statements_eq_ok_iff.mp hs
    rfl
  refine ⟨q, b, s, hcompile, hsort, hb, hs, by rw [hbundle], ?_, ?_⟩
  · rw [hcounted, Selection.sql]
  · rw [hcounted]
    decide

end Compiler

end QueryDesk
