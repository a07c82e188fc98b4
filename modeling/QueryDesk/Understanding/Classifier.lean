import QueryDesk.Understanding.Vocabulary

/-!
# Intent classification

A text is scored for every intent by the number of the intent's words that occur in its lower
form; the best score wins, and of equal scores the intent that is ranked earlier.
-/

namespace QueryDesk.Classifier

open Vocabulary

/-- The number of an intent's words that occur in the text. -/
def score (lowered : String) (i : Intent) : Nat :=
  (intentWords i).countP (Text.contains lowered)

/-- The first of the intents with the greatest positive score, and that score. -/
def bestOf (lowered : String) (intents : List Intent) : Option (Intent × Nat) :=
  intents.foldl (fun best i =>
    let top := match best with
      | some (_, top) => top
      | none => 0
    if top < score lowered i then some (i, score lowered i) else best) none

/-- The intent of a text and the share of the intent's words that occur in it, as a fraction. -/
def verdict (lowered : String) : Intent × Nat × Nat :=
  match bestOf lowered Intent.ranked with
  | some (i, n) => (i, n, (intentWords i).length)
  | none => (.statistics, 1, 2)

/-- A fraction as a confidence, at most one. -/
def confidence (n total : Nat) : Float :=
  let share := Float.ofNat n / Float.ofNat total
  if share < 1.0 then share else 1.0

/-- The first of the phrases that occurs in the text. -/
def firstPhrase? (lowered : String) (phrases : List String) : Option String :=
  phrases.find? (Text.contains lowered)

/-- The first run of digits in the text, if it fits a 64-bit word. -/
def firstNumber? (text : String) : Option UInt64 :=
  match Text.natural? (Text.firstDigits text.toList) with
  | some n => if n < Decimal.words 64 then some (UInt64.ofNat n) else none
  | none => none

/-- What the text says beside its intent. -/
def parameters (lowered : String) : IntentParameters where
  timeRange := firstPhrase? lowered timeRanges
  aggregation := firstPhrase? lowered aggregateNames
  limit := firstNumber? lowered
  entity := (entityWords.find? fun (_, words) => mentions lowered words).map Prod.fst

def classify (text : String) : IntentResult :=
  let lowered := Text.lower text
  let (intent, n, total) := verdict lowered
  .make intent (confidence n total) (parameters lowered) text

end QueryDesk.Classifier
