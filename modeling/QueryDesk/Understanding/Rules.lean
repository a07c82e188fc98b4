import QueryDesk.Understanding.Classifier
import QueryDesk.Text.DecimalDigit

/-!
# Phrase rules

What the phrases of a text in lower case say about conditions, aggregation, time window and
presentation.
-/

namespace QueryDesk.Rules

open Vocabulary

/-- The conditions that the text implies, at most one a field. -/
def conditions (lowered : String) : List Condition :=
  (conditionRules.foldl (fun found (phrases, field, value) =>
    if found.any (·.field == field) || !mentions lowered phrases then found
    else found ++ [⟨field, .eq, .single value, .and⟩]) [])

/-- The grouping and the aggregates that the text asks for, when it asks for grouping at all. -/
def aggregation? (lowered : String) : Option Aggregation :=
  if mentions lowered groupingPhrases then
    let grouped := match groupFields.find? fun (phrases, _) => mentions lowered phrases with
      | some (_, field) => Aggregation.empty.withGroupBy field
      | none => .empty
    let spec := aggregateFunctions.foldl (fun spec (phrases, x) =>
      if mentions lowered phrases then spec.withAggregate x.label x.function else spec) grouped
    if spec.isEmpty then none else some spec
  else none

/-! ## Day counts -/

/-- The rest of the text after a word at its head. -/
def afterWord? (word : String) (s : List Char) : Option (List Char) :=
  if word.toList.isPrefixOf s then some (s.drop word.toList.length) else none

/-- The rest of the text after the first of some words that stands at its head. -/
def afterOneOf? (words : List String) (s : List Char) : Option (List Char) :=
  words.findSome? (afterWord? · s)

/-- The rest of the text after at least one blank. -/
def afterBlanks? (s : List Char) : Option (List Char) :=
  match s with
  | c :: rest => if Text.isBlank c then some (Text.stripStart rest) else none
  | [] => none

/-- A run of digits of any script at the head of the text, and the rest. -/
def digitRun? (s : List Char) : Option (List Char × List Char) :=
  let run := s.takeWhile Text.isDecimalDigit
  if run.isEmpty then none else some (run, s.dropWhile Text.isDecimalDigit)

/-- The digits of a phrase such as `last 7 days` or `最近7天` at the head of the text. -/
def dayCountAt? (s : List Char) : Option (List Char) :=
  let english := do
    let s ← afterOneOf? ["last", "past"] s
    let s ← afterBlanks? s
    let (digits, s) ← digitRun? s
    let s ← afterBlanks? s
    let _ ← afterWord? "day" s
    return digits
  let chinese := do
    let s ← afterOneOf? ["最近", "过去", "近"] s
    let (digits, s) ← digitRun? s
    let _ ← afterWord? "天" s
    return digits
  english <|> chinese

/-- The digits of the first such phrase in the text. -/
def firstDayCount? : List Char → Option (List Char)
  | [] => none
  | c :: rest => dayCountAt? (c :: rest) <|> firstDayCount? rest

/-- The positive number of days that the first such phrase names, if it fits a 32-bit word. -/
def dayCount? (lowered : String) : Option UInt32 :=
  match (firstDayCount? lowered.toList).bind Text.natural? with
  | some n => if 0 < n ∧ n < Decimal.words 32 then some (UInt32.ofNat n) else none
  | none => none

/-! ## Windows -/

/-- What a text says about time. -/
inductive Span where
  /-- Nothing. -/
  | none
  | window (w : Window)
  /-- The day before the first day of the calendar. -/
  | beforeCalendar
deriving DecidableEq

/-- The time window that the text names, seen from a day. -/
def span (lowered : String) (today : Date) : Span :=
  match dayCount? lowered with
  | some days => .window (.relative days)
  | none =>
    if mentions lowered ["yesterday", "昨天"] then
      match today.minusDays? 1 with
      | some d => .window (.day d)
      | none => .beforeCalendar
    else if mentions lowered ["today", "今天"] then .window (.day today)
    else match fixedWindows.find? fun (phrases, _) => mentions lowered phrases with
    | some (_, days) => .window (.relative days)
    | none =>
      if mentions lowered ["this month", "本月"] then
        .window (.absolute (some today.firstOfMonth) none)
      else if mentions lowered ["this year", "今年"] then
        .window (.absolute (some today.firstOfYear) none)
      else .none

/-! ## Presentation -/

/-- The format that the text asks for. -/
def format? (text : String) : Option Format :=
  (formatWords.find? fun (phrases, _) => mentions text phrases).map Prod.snd

/-- How the answer is to be presented: the format that the model understood before the one that
the text names, and for a ranking the first aggregate as the sort field. -/
def presentation (lowered : String) (analysis : Analysis) (intent : Intent)
    (aggregation : Option Aggregation) : Presentation where
  format := (((analysis.outputRequirements.map Text.lower).bind format?) <|>
    format? lowered).getD .json
  limit := Classifier.firstNumber? lowered
  sortBy := if intent = .ranking then
      (aggregation.bind (·.aggregates.head?)).map (·.label)
    else none
  direction := if mentions lowered ascendingPhrases then .asc else .desc

end QueryDesk.Rules
