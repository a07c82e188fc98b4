import QueryDesk.Json.Unread
import QueryDesk.Model.Request
import QueryDesk.Settings.Basic
import QueryDesk.Text.Blank

/-!
# Chat completions

The format in which a language model is asked and answers: messages with roles, and choices of
which the first that says anything counts.
-/

namespace QueryDesk.Chat

open Json (Unread slot)

/-- Who says something. -/
inductive Role where
  | system | user | assistant
deriving DecidableEq, Repr, Inhabited

namespace Role

def name : Role → String
  | system => "system"
  | user => "user"
  | assistant => "assistant"

def read? : Unread → Option Role :=
  Unread.choice? fun s => [system, user, assistant].find? (·.name == s)

end Role

/-- One message; a reply may have no text. -/
structure Message where
  role : Role
  content : Option String
deriving DecidableEq, Repr, Inhabited

namespace Message

def toJson (m : Message) : Json :=
  .obj [("role", .str m.role.name), ("content", .ofOption .str m.content)]

def read? (u : Unread) : Option Message := do
  let s ← u.slots? ["role", "content"]
  return {
    role := ← (slot s 0).required Role.read?
    content := ← (slot s 1).nullable Unread.string? }

end Message

def requestJson (model : String) (r : ModelRequest) : Json :=
  .obj [("model", .str model),
    ("messages", .arr [Message.toJson ⟨.system, some r.systemPrompt⟩,
      Message.toJson ⟨.user, some r.userPrompt⟩]),
    ("temperature", .ofFloat32 r.temperature), ("max_tokens", .ofNat r.maxTokens.toNat),
    ("stream", .bool false)]

/-- The text of one choice, if it has any. -/
def readChoice? (u : Unread) : Option (Option String) := do
  let s ← u.slots? ["message", "finish_reason"]
  let message ← (slot s 0).required Message.read?
  let _ ← (slot s 1).nullable Unread.string?
  return message.content

def readChoices? (u : Unread) : Option (List (Option String)) := do
  let s ← u.slots? ["choices"]
  (slot s 0).withDefault [] (Unread.list? readChoice?)

/-- The first text that is not blank. -/
def firstText? (choices : List (Option String)) : Option String :=
  (choices.filterMap id).find? fun text => !Text.isBlankText text

end QueryDesk.Chat
