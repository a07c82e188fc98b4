import QueryDesk.Engine.Kind

/-!
# Engine status

What an engine reports of itself: its health, whether it is connected, and details of its own.
-/

namespace QueryDesk

open Json (slot)

/-- How well an engine works. -/
inductive Health where
  | healthy
  | degraded (message : String)
  | unhealthy (message : String)
deriving DecidableEq, Repr, Inhabited

namespace Health

def toJson : Health → Json
  | healthy => .obj [("state", .str "healthy")]
  | degraded message => .obj [("state", .str "degraded"), ("message", .str message)]
  | unhealthy message => .obj [("state", .str "unhealthy"), ("message", .str message)]

/-- Reads the message of a health of a state. -/
def ofState? (state : String) (rest : Json) : Option Health :=
  let message := (rest.slots? ["message"]).bind fun s => (slot s 0).required Json.asString?
  if state == "healthy" then
    match rest with
    | .arr (_ :: _) => none
    | _ => some healthy
  else if state == "degraded" then message.map degraded
  else if state == "unhealthy" then message.map unhealthy
  else none

/-- Reads the JSON form: the state under its key, or as the first item of an array. -/
def ofJson? : Json → Option Health
  | .obj ms => do
    let state ← (← Json.Members.get? "state" ms).asString?
    ofState? state (.obj ms)
  | .arr (state :: rest) => do ofState? (← state.asString?) (.arr rest)
  | _ => none

end Health

/-- The status of an engine. -/
structure EngineStatus where
  kind : EngineKind
  connected : Bool
  health : Health
  details : Json.Members
deriving Inhabited

namespace EngineStatus

def toJson (s : EngineStatus) : Json :=
  .obj [("kind", s.kind.toJson), ("connected", .bool s.connected), ("health", s.health.toJson),
    ("details", .obj s.details)]

def ofJson? (j : Json) : Option EngineStatus := do
  let s ← j.slots? ["kind", "connected", "health", "details"]
  return {
    kind := ← (slot s 0).required EngineKind.ofJson?
    connected := ← (slot s 1).required Json.asBool?
    health := ← (slot s 2).required Health.ofJson?
    details := ← (slot s 3).required Json.asObject? }

end EngineStatus

end QueryDesk
