import QueryDesk.Json.Decode

/-!
# Model requests

What the language model is asked: instructions, the request and the sampling parameters.
-/

namespace QueryDesk

/-- One completion request. -/
structure ModelRequest where
  systemPrompt : String
  userPrompt : String
  temperature : Float32
  maxTokens : UInt32
deriving Repr, Inhabited

def ModelRequest.toJson (r : ModelRequest) : Json :=
  .obj [("system_prompt", .str r.systemPrompt), ("user_prompt", .str r.userPrompt),
    ("temperature", .ofFloat32 r.temperature), ("max_tokens", .ofNat r.maxTokens.toNat)]

/-- How the model samples its completion. -/
structure Sampling where
  temperature : Float32
  maxTokens : UInt32
deriving Repr, Inhabited

/-- The sampling used when none is configured. -/
def Sampling.default : Sampling := ⟨0.7, 4000⟩

end QueryDesk
