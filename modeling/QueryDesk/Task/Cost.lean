import QueryDesk.Query.Basic

/-!
# Cost

The complexity of a query, the resources it is given and the time it is expected to take.  The
formulas are stated over any kind of number with decimals, products and an order, so that they
can be computed in floating point and reasoned about in rationals.
-/

namespace QueryDesk

/-- Memory, cores and instances. -/
structure Resources (α : Type) where
  memory : α
  cores : α
  instances : α
deriving Repr, Inhabited

namespace Cost

section Formulas

variable {α : Type} [OfScientific α] [Mul α] [Div α] [LT α] [DecidableLT α]

def clamp (low high x : α) : α :=
  if x < low then low else if high < x then high else x

/-- The smaller number; the second where they do not compare. -/
def capped (cap x : α) : α :=
  if x < cap then x else cap

/-- The factor of a long list of conditions. -/
def conditionFactors (q : Query) : List α :=
  if 3 < q.conditions.length then [1.5] else []

/-- The factors of an aggregation, and of one with many grouping fields. -/
def aggregationFactors (q : Query) : List α :=
  match q.aggregation with
  | some a => if 2 < a.groupBy.length then [2.0, 1.5] else [2.0]
  | none => []

/-- The factor of a long relative window. -/
def windowFactors (q : Query) : List α :=
  match q.window with
  | some (.relative days) => if 30 < days then [1.2] else []
  | _ => []

def intentFactors (q : Query) : List α :=
  if q.intent.intent.isAnalytical then [1.5] else []

/-- The factors that a query's parts contribute, in order. -/
def factors (q : Query) : List α :=
  conditionFactors q ++ aggregationFactors q ++ windowFactors q ++ intentFactors q

/-- The complexity of a query, between 1 and 5. -/
def complexity (q : Query) : α :=
  clamp 1.0 5.0 ((factors q).foldl (· * ·) 1.0)

def base : Resources α := ⟨2.0, 1.0, 1.0⟩

def ceiling : Resources α := ⟨16.0, 8.0, 4.0⟩

/-- The least resources times a factor of at least one, each capped. -/
def scaled (factor : α) : Resources α :=
  let factor := if 1.0 < factor then factor else 1.0
  ⟨capped ceiling.memory (base.memory * factor), capped ceiling.cores (base.cores * factor),
    capped ceiling.instances (base.instances * factor)⟩

def resources (q : Query) : Resources α :=
  scaled (complexity q)

/-- The slow-down (above 1) or speed-up (below 1) that resources bring. -/
def resourceFactor (r : Resources α) : α :=
  let capacity := r.cores * r.memory
  if 0.0 < capacity then clamp 0.25 2.0 (4.0 / capacity) else 2.0

/-- How an engine compares with the reference. -/
def engineFactor : EngineKind → α
  | .spark => 1.0
  | .hive => 1.5
  | .clickhouse => 0.8
  | .presto => 1.2

/-- The seconds expected for the given factors. -/
def seconds (complexity engine resource : α) : α :=
  30.0 * complexity * engine * resource

end Formulas

/-- The expected cost of a task. -/
structure Estimate where
  seconds : Float
  minutes : Float
  complexity : Float
  engine : Float
  resource : Float
  confidence : String
deriving Repr, Inhabited

/-- The expected cost of a query on an engine with resources. -/
def estimate (q : Query) (kind : EngineKind) (r : Resources Float) : Estimate :=
  let c : Float := complexity q
  let e : Float := engineFactor kind
  let f := resourceFactor r
  let s := seconds c e f
  ⟨s, s / 60.0, c, e, f, "medium"⟩

namespace Estimate

def toJson (e : Estimate) : Json :=
  .obj [("estimated_seconds", .ofFloat e.seconds), ("estimated_minutes", .ofFloat e.minutes),
    ("complexity_factor", .ofFloat e.complexity), ("backend_factor", .ofFloat e.engine),
    ("resource_factor", .ofFloat e.resource), ("confidence", .str e.confidence)]

def ofJson? (j : Json) : Option Estimate := do
  let s ← j.slots? ["estimated_seconds", "estimated_minutes", "complexity_factor",
    "backend_factor", "resource_factor", "confidence"]
  return {
    seconds := ← (Json.slot s 0).required Json.asFloat?
    minutes := ← (Json.slot s 1).required Json.asFloat?
    complexity := ← (Json.slot s 2).required Json.asFloat?
    engine := ← (Json.slot s 3).required Json.asFloat?
    resource := ← (Json.slot s 4).required Json.asFloat?
    confidence := ← (Json.slot s 5).required Json.asString? }

end Estimate

end Cost

namespace Resources

def toJson (r : Resources Float) : Json :=
  .obj [("memory_gb", .ofFloat r.memory), ("cores", .ofFloat r.cores),
    ("instances", .ofFloat r.instances)]

def ofJson? (j : Json) : Option (Resources Float) := do
  let s ← j.slots? ["memory_gb", "cores", "instances"]
  return {
    memory := ← (Json.slot s 0).required Json.asFloat?
    cores := ← (Json.slot s 1).required Json.asFloat?
    instances := ← (Json.slot s 2).required Json.asFloat? }

end Resources

end QueryDesk
