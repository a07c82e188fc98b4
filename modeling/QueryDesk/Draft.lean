import QueryDesk.Fault
import QueryDesk.Model.Request
import QueryDesk.Query.Basic

/-!
# Drafts

Records that are filled in field by field.  A draft becomes a record once every field without a
default is set; else it names the first field that is missing, in the order of the record.
-/

namespace QueryDesk

/-- A field, or the text that says it is missing. -/
def fieldOrMissing {α : Type} (name : String) : Option α → Except String α
  | some a => .ok a
  | none => .error ("`" ++ name ++ "` must be initialized")

/-- A table reference being filled in. -/
structure SourceDraft where
  name : Option String
  engine : Option EngineKind
  table : Option String
  database : Option String
  path : Option String
  dateColumn : Option String

def SourceDraft.build (d : SourceDraft) : Except String SourceRef := do
  return {
    name := ← fieldOrMissing "name" d.name
    engine := ← fieldOrMissing "backend" d.engine
    table := ← fieldOrMissing "table" d.table
    database := d.database
    path := d.path
    dateColumn := d.dateColumn.getD defaultDateColumn }

/-- A model request being filled in. -/
structure RequestDraft where
  systemPrompt : Option String
  userPrompt : Option String
  temperature : Option Float32
  maxTokens : Option UInt32

def RequestDraft.build (d : RequestDraft) : Except String ModelRequest := do
  return {
    systemPrompt := ← fieldOrMissing "system_prompt" d.systemPrompt
    userPrompt := ← fieldOrMissing "user_prompt" d.userPrompt
    temperature := d.temperature.getD Sampling.default.temperature
    maxTokens := d.maxTokens.getD Sampling.default.maxTokens }

/-- A query being filled in. -/
structure QueryDraft where
  originalText : Option String
  intent : Option IntentResult
  source : Option SourceRef
  conditions : List Condition
  aggregation : Option Aggregation
  window : Option Window
  output : Presentation
  analysis : Analysis
  description : String
  confidence : Option Float

namespace QueryDraft

def empty : QueryDraft :=
  ⟨none, none, none, [], none, none, .default, .empty, "", none⟩

/-- Whether a confidence that is set lies between zero and one. -/
def checkConfidence : Option Float → Except String Unit
  | some x =>
    if 0.0 ≤ x ∧ x ≤ 1.0 then .ok ()
    else .error ("confidence_score must be in [0, 1], got " ++
      String.ofList (Decimal.plainText x))
  | none => .ok ()

/-- The query of a draft; its confidence is checked before anything missing is reported. -/
def assemble (d : QueryDraft) : Except String Query := do
  checkConfidence d.confidence
  return {
    originalText := ← fieldOrMissing "original_query" d.originalText
    intent := ← fieldOrMissing "intent" d.intent
    source := ← fieldOrMissing "data_source" d.source
    conditions := d.conditions
    aggregation := d.aggregation
    window := d.window
    output := d.output
    analysis := d.analysis
    description := d.description
    confidence := ← fieldOrMissing "confidence_score" d.confidence }

/-- The query of a draft, or the fault. -/
def build (d : QueryDraft) : Except Fault Query :=
  (assemble d).mapError (.builder "analyzed query")

end QueryDraft

end QueryDesk
