import QueryDesk.Model.Chat
import QueryDesk.Web.Exchange

/-!
# Model clients

How the language model is asked.  A hosted model is asked again, at most as often as its budget
allows, while the answer is one that asking again could help; the last answer counts.  The
offline client asks nobody.
-/

namespace QueryDesk

open Web (Request Reply Exchange Pause)

/-- A hosted model. -/
structure HostedModel where
  apiKey : String
  endpoint : String
  model : String
  maxRetries : UInt32
deriving DecidableEq, Repr, Inhabited

namespace HostedModel

def ofSettings (apiKey : String) (s : ModelSettings) : HostedModel :=
  ⟨apiKey, Web.serviceRoot s.baseUrl ++ "/chat/completions", s.model, s.maxRetries⟩

/-- The request for a completion after a number of failures. -/
def request (h : HostedModel) (r : ModelRequest) (failures : Nat) : Request :=
  ((Request.post h.endpoint (.json (Chat.requestJson h.model r))).withCredentials
    (.bearer h.apiKey)).after (if failures = 0 then .none else .backoff failures)

def textOf : Reply → Except ModelFault String
  | .lost detail => .error (.request ("Request failed: " ++ detail))
  | .answered status body =>
    if 200 ≤ status ∧ status < 300 then
      match body with
      | .error detail => .error (.unparseable ("Failed to parse response: " ++ detail))
      | .ok text =>
        match (Json.unread? text).bind Chat.readChoices? with
        | none => .error (.unparseable "Failed to parse response: unexpected content")
        | some choices =>
          match Chat.firstText? choices with
          | some said => .ok said
          | none => .error .emptyResponse
    else .error (.api status (body.toOption.getD ""))

/-- Whether an answer is worth asking again for. -/
def isRetryable : Except ModelFault String → Bool
  | .error f => f.isRetryable
  | .ok _ => false

/-- Asks for a completion after a number of failures, with a number of retries left. -/
def invokeAfter (h : HostedModel) (r : ModelRequest) (failures : Nat) :
    Nat → Exchange (Except ModelFault String)
  | 0 => .ask (h.request r failures) fun reply => .done (textOf reply)
  | retries + 1 => .ask (h.request r failures) fun reply =>
    if isRetryable (textOf reply) then invokeAfter h r (failures + 1) retries
    else .done (textOf reply)

def invoke (h : HostedModel) (r : ModelRequest) : Exchange (Except ModelFault String) :=
  h.invokeAfter r 0 h.maxRetries.toNat

end HostedModel

/-- The model that a program works with. -/
inductive ModelClient where
  | hosted (model : HostedModel)
  | offline
deriving DecidableEq, Repr, Inhabited

namespace ModelClient

/-- The configured model, its key taken from the variable that the settings name. -/
def ofSettings (s : ModelSettings) (lookup : String → Option String) :
    Except Fault ModelClient :=
  match lookup s.apiKeyVariable with
  | some key => .ok (.hosted (.ofSettings key s))
  | none =>
    .error (.config (s.apiKeyVariable ++ " not set: environment variable not found"))

def provider : ModelClient → String
  | hosted _ => "openai-compatible"
  | offline => "offline"

def modelName : ModelClient → String
  | hosted h => h.model
  | offline => "none"

def invoke (r : ModelRequest) : ModelClient → Exchange (Except Fault String)
  | hosted h => do return (← h.invoke r).mapError .model
  | offline => .done (.error (.model .disabled))

end ModelClient

end QueryDesk
