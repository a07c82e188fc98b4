import Mathlib.Data.List.Infix
import QueryDesk.Proofs.Text.Search
import QueryDesk.Proofs.Understanding.Invariants

/-!
# The best intent

The classifier walks through the ranked intents and keeps the best so far.  The invariant of the
walk is that what is kept leads among the intents passed (`Leads.challenge`): it has more words in
the text than every intent before it, and no fewer than those behind it.  At the end it leads among
all of them, and its share of words, which is never more than one, is the confidence
(`classify_best`).
-/

namespace QueryDesk.Classifier

open Vocabulary

/-! ## Words in a text -/

/-- The words of an intent that occur in the lower form of the text. -/
def wordsIn (text : String) (i : Intent) : List String :=
  (intentWords i).filter fun word => word.toList <:+: (Text.lower text).toList

/-- How many they are. -/
def hits (text : String) (i : Intent) : Nat := (wordsIn text i).length

theorem score_lower (text : String) (i : Intent) : score (Text.lower text) i = hits text i := by
  rw [score, hits, wordsIn, List.countP_eq_length_filter]
  congr 2
  funext word
  rw [Text.contains, Bool.eq_iff_iff, Text.occurs_iff_infix, decide_eq_true_eq]

theorem hits_le (text : String) (i : Intent) : hits text i ≤ (intentWords i).length :=
  List.length_filter_le _ _

/-! ## Leading -/

/-- The first of the intents with the greatest number. -/
def IsFirstBest (number : Intent → Nat) (intents : List Intent) (i : Intent) : Prop :=
  ∃ before after, intents = before ++ i :: after ∧ (∀ j ∈ before, number j < number i) ∧
    ∀ j ∈ after, number j ≤ number i

namespace IsFirstBest

variable {number : Intent → Nat} {intents : List Intent} {i : Intent}

theorem mem (h : IsFirstBest number intents i) : i ∈ intents := by
  obtain ⟨before, after, rfl, -, -⟩ := h
  exact List.mem_append_right _ List.mem_cons_self

theorem le (h : IsFirstBest number intents i) : ∀ j ∈ intents, number j ≤ number i := by
  obtain ⟨before, after, rfl, hbefore, hafter⟩ := h
  simp only [List.forall_mem_append, List.forall_mem_cons]
  exact ⟨fun j hj => Nat.le_of_lt (hbefore j hj), Nat.le_refl _, hafter⟩

/-- One more intent that is not better. -/
theorem concat (h : IsFirstBest number intents i) {j : Intent} (hj : number j ≤ number i) :
    IsFirstBest number (intents ++ [j]) i := by
  obtain ⟨before, after, rfl, hbefore, hafter⟩ := h
  refine ⟨before, after ++ [j], by simp, hbefore, ?_⟩
  simp only [List.forall_mem_append, List.forall_mem_singleton]
  exact ⟨hafter, hj⟩

/-- One more intent that is better than all before. -/
theorem last {j : Intent} (h : ∀ i ∈ intents, number i < number j) :
    IsFirstBest number (intents ++ [j]) j :=
  ⟨intents, [], rfl, h, fun _ h => absurd h List.not_mem_nil⟩

end IsFirstBest

/-- What the walk keeps once it has passed some intents: the first best one with its score, or
nothing while no word has occurred. -/
inductive Leads (lowered : String) (intents : List Intent) : Option (Intent × Nat) → Prop where
  | nothing (h : ∀ i ∈ intents, score lowered i = 0) : Leads lowered intents none
  | found {i : Intent} (hpos : 0 < score lowered i)
    (hbest : IsFirstBest (score lowered) intents i) :
    Leads lowered intents (some (i, score lowered i))

/-- The next intent takes the lead if its score is greater. -/
def challenge (lowered : String) (best : Option (Intent × Nat)) (i : Intent) :
    Option (Intent × Nat) :=
  let top := match best with
    | some (_, top) => top
    | none => 0
  if top < score lowered i then some (i, score lowered i) else best

theorem Leads.challenge {lowered : String} {intents : List Intent} {best : Option (Intent × Nat)}
    (h : Leads lowered intents best) (j : Intent) :
    Leads lowered (intents ++ [j]) (challenge lowered best j) := by
  cases h with
  | nothing hzero =>
    rw [Classifier.challenge]
    split
    · next hlt => exact .found hlt (.last fun i hi => hzero i hi ▸ hlt)
    · next hge =>
      refine .nothing ?_
      simp only [List.forall_mem_append, List.forall_mem_singleton]
      exact ⟨hzero, Nat.eq_zero_of_not_pos hge⟩
  | found hpos hbest =>
    rw [Classifier.challenge]
    split
    · next hlt =>
      exact .found (Nat.lt_trans hpos hlt)
        (.last fun k hk => Nat.lt_of_le_of_lt (hbest.le k hk) hlt)
    · next hge => exact .found hpos (hbest.concat (Nat.le_of_not_lt hge))

theorem leads_bestOf (lowered : String) (intents : List Intent) :
    Leads lowered intents (bestOf lowered intents) := by
  induction intents using List.reverseRecOn with
  | nil => exact .nothing fun _ h => absurd h List.not_mem_nil
  | append_singleton intents j ih =>
    have hwalk : bestOf lowered (intents ++ [j]) =
        Classifier.challenge lowered (bestOf lowered intents) j := List.foldl_concat ..
    rw [hwalk]
    exact ih.challenge j

theorem bestOf_eq_none_iff {lowered : String} {intents : List Intent} :
    bestOf lowered intents = none ↔ ∀ i ∈ intents, score lowered i = 0 := by
  have hleads := leads_bestOf lowered intents
  cases hbest : bestOf lowered intents with
  | none =>
    rw [hbest] at hleads
    cases hleads with
    | nothing hzero => exact iff_of_true rfl hzero
  | some kept =>
    rw [hbest] at hleads
    cases hleads with
    | found hpos hlead =>
      exact iff_of_false nofun fun hzero => Nat.ne_of_gt hpos (hzero _ hlead.mem)

/-! ## The finding -/

/-- The share of an intent's words that occur in the text. -/
def share (text : String) (i : Intent) : ℚ := hits text i / (intentWords i).length

/-- The machine neither caps nor clamps a share of words. -/
theorem clampConfidence_of_mem : ∀ share ∈ shares,
    IntentResult.clampConfidence (confidence share.1 share.2) =
      Float.ofNat share.1 / Float.ofNat share.2 ∧
    0.0 < Float.ofNat share.1 / Float.ofNat share.2 ∧
    Float.ofNat share.1 / Float.ofNat share.2 ≤ 1.0 := by
  decide +kernel

/-- What is found in a text in which some word occurs: the first best intent, and the share of its
words as the confidence, both exactly and as the machine divides. -/
structure Wins (text : String) (r : IntentResult) : Prop where
  best : IsFirstBest (hits text) Intent.ranked r.intent
  exact : exactConfidence (hits text r.intent, (intentWords r.intent).length) = share text r.intent
  share_pos : 0 < share text r.intent
  share_le_one : share text r.intent ≤ 1
  machine : r.confidence =
    Float.ofNat (hits text r.intent) / Float.ofNat (intentWords r.intent).length
  inRange : 0.0 < r.confidence ∧ r.confidence ≤ 1.0

theorem share_pos {text : String} {i : Intent} (h : 0 < hits text i) : 0 < share text i := by
  have hwords : 0 < (intentWords i).length := Nat.lt_of_lt_of_le h (hits_le text i)
  exact div_pos (Nat.cast_pos.mpr h) (Nat.cast_pos.mpr hwords)

theorem share_le_one (text : String) (i : Intent) : share text i ≤ 1 :=
  div_le_one_of_le₀ (Nat.cast_le.mpr (hits_le text i)) (Nat.cast_nonneg _)

/-- The cap of the confidence is not reached. -/
theorem exactConfidence_eq_share (text : String) (i : Intent) :
    exactConfidence (hits text i, (intentWords i).length) = share text i :=
  min_eq_left (share_le_one text i)

theorem wins_of_bestOf {text : String} {i : Intent} {n : Nat}
    (h : bestOf (Text.lower text) Intent.ranked = some (i, n)) : Wins text (classify text) := by
  have hscore : score (Text.lower text) = hits text := funext (score_lower text)
  have hleads := leads_bestOf (Text.lower text) Intent.ranked
  rw [h] at hleads
  cases hleads with
  | found hpos hbest =>
    rw [hscore] at hpos hbest h
    have hverdict : verdict (Text.lower text) = (i, hits text i, (intentWords i).length) := by
      rw [verdict, h]
    have hintent : (classify text).intent = i := by
      simp only [classify, IntentResult.make, hverdict]
    obtain ⟨hclamp, hrange⟩ := clampConfidence_of_mem _ (verdict_mem (Text.lower text))
    rw [← confidence_classify] at hclamp
    rw [hverdict] at hclamp hrange
    dsimp only at hclamp hrange
    rw [← hclamp] at hrange
    rw [← hintent] at hpos hbest hclamp
    exact ⟨hbest, exactConfidence_eq_share text _, share_pos hpos, share_le_one text _, hclamp,
      hrange⟩

theorem fallback_of_bestOf {text : String} (h : bestOf (Text.lower text) Intent.ranked = none) :
    (classify text).intent = .statistics ∧ (classify text).confidence = 0.5 := by
  have hverdict : verdict (Text.lower text) = (.statistics, 1, 2) := by
    rw [verdict, h]
  have hhalf : IntentResult.clampConfidence (confidence 1 2) = 0.5 := by decide +kernel
  rw [confidence_classify, hverdict]
  refine ⟨?_, hhalf⟩
  simp only [classify, IntentResult.make, hverdict]

/-- The classifier finds the first best intent of a text, or statistics for want of any word; it
looks at the lower form only. -/
theorem classify_best (text : String) :
    (classify text).intent ≠ .unknown ∧
      ((∃ i ∈ Intent.ranked, 0 < hits text i) → Wins text (classify text)) ∧
      ((∀ i ∈ Intent.ranked, hits text i = 0) →
        (classify text).intent = .statistics ∧ (classify text).confidence = 0.5) ∧
      ∀ other, Text.lower other = Text.lower text →
        (classify other).intent = (classify text).intent ∧
          (classify other).confidence = (classify text).confidence ∧
          (classify other).parameters = (classify text).parameters := by
  refine ⟨?known, ?wins, ?fallback, ?lower⟩
  case known =>
    simp only [classify, IntentResult.make]
    exact verdict_ne_unknown _
  case wins =>
    rintro ⟨i, hi, hpos⟩
    cases hbest : bestOf (Text.lower text) Intent.ranked with
    | some kept => exact wins_of_bestOf hbest
    | none =>
      have hzero := bestOf_eq_none_iff.mp hbest i hi
      rw [score_lower] at hzero
      exact absurd hzero (Nat.ne_of_gt hpos)
  case fallback =>
    intro hzero
    exact fallback_of_bestOf
      (bestOf_eq_none_iff.mpr fun i hi => (score_lower text i).trans (hzero i hi))
  case lower =>
    intro other hlower
    simp only [classify, IntentResult.make, hlower, and_self]

/-- One word of each of two intents: the one ranked first wins. -/
theorem classify_best_tie :
    hits "TOP 10 by total" .statistics = 1 ∧ hits "TOP 10 by total" .ranking = 1 ∧
      Wins "TOP 10 by total" (classify "TOP 10 by total") ∧
      (classify "TOP 10 by total").intent = .statistics := by
  have hstatistics : hits "TOP 10 by total" .statistics = 1 := by decide +kernel
  have hpos : 0 < hits "TOP 10 by total" .statistics := by
    rw [hstatistics]
    exact Nat.one_pos
  exact ⟨hstatistics, by decide +kernel,
    (classify_best "TOP 10 by total").2.1 ⟨.statistics, by decide, hpos⟩, by decide +kernel⟩

end QueryDesk.Classifier
