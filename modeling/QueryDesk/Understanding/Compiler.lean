import QueryDesk.Draft
import QueryDesk.Understanding.Prompt
import QueryDesk.Understanding.Reply
import QueryDesk.Understanding.Rules

/-!
# Compiling requests

A request text becomes a query.  The model is asked once; what it says is used for the table,
the description, the format and, where the text is silent, for the aggregation and the time
window.  A model that fails is replaced by the classifier's own findings.
-/

namespace QueryDesk

abbrev ModelAnswer := Except Fault String

/-- What requests are compiled with. -/
structure Compiler where
  catalog : Catalog
  sampling : Sampling
  /-- The day of the request.  It is given; nothing here looks it up on a calendar of its own. -/
  today : Date

namespace Compiler

/-- What is added to the confidence for an entity, for conditions and for aggregations. -/
def boosts {α : Type} [OfScientific α] (a : Analysis) : List α :=
  (if a.dataEntity.isSome then [0.2] else []) ++ (if a.conditions.isSome then [0.1] else []) ++
    (if a.aggregations.isSome then [0.1] else [])

/-- A confidence with the boosts added in turn, at most one. -/
def boosted {α : Type} [OfScientific α] [Add α] [LT α] [DecidableLT α] (base : α)
    (a : Analysis) : α :=
  let sum := (boosts a).foldl (· + ·) base
  if sum < 1.0 then sum else 1.0

/-- What the model is asked about a text. -/
def request (c : Compiler) (text : String) : ModelRequest :=
  Prompt.request c.sampling text (Classifier.classify text)

/-- What was understood of a request: the model's answer if it is one, else the classifier's
findings. -/
def analyze (found : IntentResult) (answer : ModelAnswer) : Analysis :=
  match answer with
  | .ok reply => match Reply.analysis reply with
    | .ok a => a
    | .error _ => Prompt.fallbackAnalysis found
  | .error _ => Prompt.fallbackAnalysis found

/-- The grouping that the text asks for, else the one that the model describes. -/
def aggregation? (lowered : String) (a : Analysis) : Option Aggregation :=
  Rules.aggregation? lowered <|> (a.aggregations.map Text.lower).bind Rules.aggregation?

/-- The window that the text names, else the one that the model describes. -/
def span (lowered : String) (a : Analysis) (today : Date) : Rules.Span :=
  match Rules.span lowered today with
  | .none => match a.timeRange with
    | some described => Rules.span (Text.lower described) today
    | none => .none
  | found => found

/-- The draft of the query with a window. -/
def draft (c : Compiler) (text : String) (found : IntentResult) (a : Analysis)
    (window : Option Window) : QueryDraft :=
  let lowered := Text.lower text
  let aggregation := aggregation? lowered a
  { originalText := some text
    intent := some found
    source := some (c.catalog.resolve a.dataEntity text)
    conditions := Rules.conditions lowered
    aggregation := aggregation
    window := window
    output := Rules.presentation lowered a found.intent aggregation
    analysis := a
    description := a.description.getD (Prompt.plainDescription found.intent)
    confidence := some (boosted found.confidence a) }

/-- Compiles a request, given the model's answer to it.  The work is broken off when the request
names the day before the first day of the calendar. -/
def compile (c : Compiler) (text : String) (answer : ModelAnswer) : Except Halt Query :=
  let found := Classifier.classify text
  let a := analyze found answer
  match span (Text.lower text) a c.today with
  | .none => (c.draft text found a none).build.mapError .fault
  | .window w => (c.draft text found a (some w)).build.mapError .fault
  | .beforeCalendar => .error (.abort .beforeCalendar)

end Compiler

end QueryDesk
