import QueryDesk.Proofs.Fallible
import QueryDesk.Understanding.Compiler

/-!
# Confidence stays between zero and one

The classifier's confidence is the share of an intent's words that occur in the text, so it is one
of finitely many fractions, and only five sums of boosts can be added to it.  The arithmetic is that
of the machine, so the bound is checked for each of these numbers; what is proved for all texts is
that no other number can occur (`verdict_mem`, `boosts_mem`).
-/

namespace QueryDesk

open Classifier

/-! ## The shares that can occur -/

/-- The shares of words that can occur: so many out of the words of an intent, or a half. -/
def shares : List (Nat × Nat) :=
  (1, 2) :: [9, 10, 11, 12].flatMap fun total => (List.range total).map fun n => (n + 1, total)

theorem bestOf_spec {lowered : String} {intents : List Intent} : ∀ i n,
    bestOf lowered intents = some (i, n) → 0 < n ∧ n = score lowered i := by
  refine List.foldlRecOn (motive := fun best => ∀ i n, best = some (i, n) →
    0 < n ∧ n = score lowered i) intents _ (fun _ _ h => nomatch h) ?_
  intro best hbest j _ i n hi
  have hstep : ∀ top, (if top < score lowered j then some (j, score lowered j) else best) =
      some (i, n) → 0 < n ∧ n = score lowered i := by
    intro top h
    split at h
    · next hlt =>
      obtain ⟨rfl, rfl⟩ := Prod.mk.inj (Option.some.inj h)
      exact ⟨Nat.lt_of_le_of_lt (Nat.zero_le _) hlt, rfl⟩
    · exact hbest i n h
  exact hstep _ hi

theorem verdict_mem (lowered : String) : (verdict lowered).2 ∈ shares := by
  unfold verdict
  split
  · next i n hbest =>
    obtain ⟨hpos, hscore⟩ := bestOf_spec i n hbest
    have hle : n ≤ (Vocabulary.intentWords i).length := hscore ▸ List.countP_le_length
    have hmem : ∀ total ∈ [9, 10, 11, 12], n ≤ total → (n, total) ∈ shares := by
      intro total htotal hle
      refine List.mem_cons_of_mem _ (List.mem_flatMap.mpr ⟨total, htotal, List.mem_map.mpr
        ⟨n - 1, List.mem_range.mpr (by omega), ?_⟩⟩)
      rw [Nat.sub_add_cancel hpos]
    cases i with
    | unknown => exact absurd hle (Nat.not_le.mpr hpos)
    | _ => exact hmem _ (by decide) hle
  · exact List.mem_cons_self

/-! ## The boosts that can occur -/

/-- What can be added to a confidence. -/
def boostSums : List (List Float) := [[], [0.1], [0.1, 0.1], [0.2], [0.2, 0.1], [0.2, 0.1, 0.1]]

theorem boosts_mem (a : Analysis) : Compiler.boosts a ∈ boostSums := by
  unfold Compiler.boosts boostSums
  cases a.dataEntity.isSome <;> cases a.conditions.isSome <;> cases a.aggregations.isSome <;>
    simp

/-- The check that a draft's confidence has to pass. -/
def InRange (x : Float) : Prop := 0.0 ≤ x ∧ x ≤ 1.0

instance (x : Float) : Decidable (InRange x) := inferInstanceAs (Decidable (0.0 ≤ x ∧ x ≤ 1.0))

theorem isFinite_of_between {u : Float.Model.UnpackedFloat}
    (hlow : (Float.Model.UnpackedFloat.zero .positive).le u = true)
    (hhigh : u.le (1.0 : Float).toModel.unpack = true) : u.isFinite = true := by
  cases u with
  | notANumber => revert hlow; decide
  | infinity sign =>
    cases sign with
    | negative => revert hlow; decide
    | positive => revert hhigh; decide
  | zero sign => rfl
  | finite => rfl

theorem InRange.isFinite {x : Float} (h : InRange x) : x.isFinite = true :=
  isFinite_of_between (of_decide_eq_true h.1) (of_decide_eq_true h.2)

def capped (sum : Float) : Float := if sum < 1.0 then sum else 1.0

theorem inRange_shares : ∀ share ∈ shares, ∀ boosts ∈ boostSums,
    InRange (capped (boosts.foldl (· + ·)
      (IntentResult.clampConfidence (confidence share.1 share.2)))) := by
  decide +kernel

theorem boosted_eq (base : Float) (a : Analysis) :
    Compiler.boosted base a = capped ((Compiler.boosts a).foldl (· + ·) base) := rfl

theorem confidence_classify (text : String) : (classify text).confidence =
    IntentResult.clampConfidence
      (confidence (verdict (Text.lower text)).2.1 (verdict (Text.lower text)).2.2) := by
  simp only [classify, IntentResult.make]

/-- The confidence of a compiled request lies between zero and one. -/
theorem inRange_boosted (text : String) (a : Analysis) :
    InRange (Compiler.boosted (classify text).confidence a) := by
  rw [boosted_eq, confidence_classify]
  exact inRange_shares _ (verdict_mem (Text.lower text)) _ (boosts_mem a)

/-! ## Drafts -/

/-- A draft with everything set and its confidence in range becomes a query. -/
theorem QueryDraft.build_eq_ok {d : QueryDraft} {text : String} {found : IntentResult}
    {source : SourceRef} {x : Float} (htext : d.originalText = some text)
    (hfound : d.intent = some found) (hsource : d.source = some source)
    (hconfidence : d.confidence = some x) (hrange : InRange x) :
    d.build = .ok ⟨text, found, source, d.conditions, d.aggregation, d.window, d.output, d.analysis,
      d.description, x⟩ := by
  have hcheck : checkConfidence (some x) = .ok () := if_pos hrange
  unfold build assemble
  rw [htext, hfound, hsource, hconfidence, hcheck]
  rfl

theorem fieldOrMissing_eq_ok {α : Type} {name : String} {o : Option α} {a : α}
    (h : fieldOrMissing name o = .ok a) : o = some a := by
  cases o with
  | none => cases h
  | some b => exact congrArg some (Except.ok.inj h)

/-- No query is built with a confidence out of range. -/
theorem QueryDraft.confidence_inRange {d : QueryDraft} {q : Query} (h : d.build = .ok q) :
    InRange q.confidence := by
  have hassemble : d.assemble = .ok q := by
    unfold build at h
    cases hd : d.assemble with
    | error e => rw [hd] at h; cases h
    | ok q' => rw [hd] at h; exact congrArg _ (Except.ok.inj h)
  obtain ⟨_, hcheck, h⟩ := bind_eq_ok.mp hassemble
  obtain ⟨_, -, h⟩ := bind_eq_ok.mp h
  obtain ⟨_, -, h⟩ := bind_eq_ok.mp h
  obtain ⟨_, -, h⟩ := bind_eq_ok.mp h
  obtain ⟨x, hx, h⟩ := bind_eq_ok.mp h
  obtain rfl := pure_eq_ok.mp h
  rw [fieldOrMissing_eq_ok hx, checkConfidence] at hcheck
  split at hcheck
  · assumption
  · cases hcheck

/-- The window that is named, if one is. -/
def Rules.Span.window? : Rules.Span → Option Window
  | .window w => some w
  | .none | .beforeCalendar => Option.none

/-- The query of a request, given what was understood of it. -/
def Compiler.understood (c : Compiler) (text : String) (a : Analysis) : Query where
  originalText := text
  intent := classify text
  source := c.catalog.resolve a.dataEntity text
  conditions := Rules.conditions (Text.lower text)
  aggregation := aggregation? (Text.lower text) a
  window := (span (Text.lower text) a c.today).window?
  output := Rules.presentation (Text.lower text) a (classify text).intent
    (aggregation? (Text.lower text) a)
  analysis := a
  description := a.description.getD (Prompt.plainDescription (classify text).intent)
  confidence := boosted (classify text).confidence a

/-- The draft of a request becomes a query, whatever was understood of it. -/
theorem build_draft (c : Compiler) (text : String) (a : Analysis) (window : Option Window) :
    (c.draft text (classify text) a window).build =
      .ok { c.understood text a with window := window } := by
  have htext : (c.draft text (classify text) a window).originalText = some text := by
    simp only [Compiler.draft]
  have hfound : (c.draft text (classify text) a window).intent = some (classify text) := by
    simp only [Compiler.draft]
  have hsource : (c.draft text (classify text) a window).source =
      some (c.catalog.resolve a.dataEntity text) := by
    simp only [Compiler.draft]
  have hconfidence : (c.draft text (classify text) a window).confidence =
      some (Compiler.boosted (classify text).confidence a) := by
    simp only [Compiler.draft]
  rw [QueryDraft.build_eq_ok htext hfound hsource hconfidence (inRange_boosted text a)]
  simp only [Compiler.draft, Compiler.understood]

end QueryDesk
