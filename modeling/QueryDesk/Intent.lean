import QueryDesk.Json.Decode

/-!
# Intents

What a request is after, and what the classifier found in it.
-/

namespace QueryDesk

/-- The kind of question asked. -/
inductive Intent where
  | statistics | analysis | trend | comparison | filter | aggregation | ranking
  | distribution | correlation | unknown
deriving DecidableEq, Repr, Inhabited

namespace Intent

def name : Intent → String
  | statistics => "statistics"
  | analysis => "analysis"
  | trend => "trend"
  | comparison => "comparison"
  | filter => "filter"
  | aggregation => "aggregation"
  | ranking => "ranking"
  | distribution => "distribution"
  | correlation => "correlation"
  | unknown => "unknown"

/-- The intents a text is scored for; earlier ones win ties. -/
def ranked : List Intent :=
  [statistics, analysis, trend, comparison, filter, aggregation, ranking, distribution,
    correlation]

def all : List Intent := ranked ++ [unknown]

def ofName? (s : String) : Option Intent :=
  all.find? (·.name == s)

/-- Whether answering takes more than one pass over the data. -/
def isAnalytical : Intent → Bool
  | analysis | trend | correlation => true
  | _ => false

def toJson (i : Intent) : Json := .str i.name

def ofJson? : Json → Option Intent := Json.choice? ofName?

end Intent

/-- The business object a request is about. -/
inductive Entity where
  | user | order | product
deriving DecidableEq, Repr, Inhabited

namespace Entity

def name : Entity → String
  | user => "user"
  | order => "order"
  | product => "product"

def all : List Entity := [user, order, product]

def ofName? (s : String) : Option Entity :=
  all.find? (·.name == s)

def toJson (e : Entity) : Json := .str e.name

def ofJson? : Json → Option Entity := Json.choice? ofName?

end Entity

/-- What was picked out of a request beside its intent. -/
structure IntentParameters where
  timeRange : Option String
  aggregation : Option String
  limit : Option UInt64
  entity : Option Entity
deriving DecidableEq, Repr, Inhabited

namespace IntentParameters

def toJson (p : IntentParameters) : Json :=
  .obj [("time_range", .ofOption .str p.timeRange),
    ("aggregation", .ofOption .str p.aggregation),
    ("limit", .ofOption (fun n => .ofNat n.toNat) p.limit),
    ("entity", .ofOption Entity.toJson p.entity)]

def ofJson? (j : Json) : Option IntentParameters := do
  let s ← j.slots? ["time_range", "aggregation", "limit", "entity"]
  return {
    timeRange := ← (Json.slot s 0).optional Json.asString?
    aggregation := ← (Json.slot s 1).optional Json.asString?
    limit := ← (Json.slot s 2).optional Json.asWord?
    entity := ← (Json.slot s 3).optional Entity.ofJson? }

end IntentParameters

/-- The classifier's finding about a request. -/
structure IntentResult where
  intent : Intent
  confidence : Float
  parameters : IntentParameters
  rawText : String
deriving Repr, Inhabited

namespace IntentResult

/-- A confidence brought into the range from zero to one; not-a-number becomes zero. -/
def clampConfidence (x : Float) : Float :=
  if x.isNaN then 0.0 else if x < 0.0 then 0.0 else if x > 1.0 then 1.0 else x

/-- A finding with its confidence brought into range. -/
def make (intent : Intent) (confidence : Float) (parameters : IntentParameters)
    (rawText : String) : IntentResult :=
  ⟨intent, clampConfidence confidence, parameters, rawText⟩

def toJson (r : IntentResult) : Json :=
  .obj [("intent", r.intent.toJson), ("confidence", .ofFloat r.confidence),
    ("parameters", r.parameters.toJson), ("raw_text", .str r.rawText)]

/-- Reads the JSON form; the confidence is taken as it stands. -/
def ofJson? (j : Json) : Option IntentResult := do
  let s ← j.slots? ["intent", "confidence", "parameters", "raw_text"]
  return {
    intent := ← (Json.slot s 0).required Intent.ofJson?
    confidence := ← (Json.slot s 1).required Json.asFloat?
    parameters := ← (Json.slot s 2).required IntentParameters.ofJson?
    rawText := ← (Json.slot s 3).required Json.asString? }

end IntentResult

end QueryDesk
