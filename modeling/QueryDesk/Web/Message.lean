import QueryDesk.Fault
import QueryDesk.Json.Unread
import QueryDesk.Json.Printer
import QueryDesk.Text.Blank

/-!
# Requests and replies

What is sent to a service and what may come back.  A reply counts as accepted when its status is
one of the 200s; a lost request, a refusal and a body that cannot be used are three different
faults, and each names the request it belongs to.
-/

namespace QueryDesk.Web

/-- What a request does. -/
inductive Method where
  | get | post | delete
deriving DecidableEq, Repr, Inhabited

namespace Method

def name : Method → String
  | get => "GET"
  | post => "POST"
  | delete => "DELETE"

end Method

/-- What a request carries. -/
inductive Content where
  | empty
  | text (body : String)
  | json (value : Json)
  | form (fields : List (String × String))
deriving Inhabited

/-- Who a request is made for. -/
inductive Credentials where
  | none
  | login (user : String) (password : Option String)
  | bearer (token : String)
deriving DecidableEq, Repr, Inhabited

/-- What passes before a request is sent. -/
inductive Pause where
  | none
  /-- The interval at which the engine is polled. -/
  | poll
  /-- A delay that grows with the number of failures so far. -/
  | backoff (failures : Nat)
deriving DecidableEq, Repr, Inhabited

/-- A request to a service. -/
structure Request where
  method : Method
  url : String
  query : List (String × String)
  headers : List (String × String)
  credentials : Credentials
  content : Content
  pause : Pause
deriving Inhabited

namespace Request

def plain (method : Method) (url : String) : Request :=
  ⟨method, url, [], [], .none, .empty, .none⟩

def get (url : String) : Request := plain .get url

def delete (url : String) : Request := plain .delete url

def post (url : String) (content : Content) : Request :=
  { plain .post url with content := content }

/-- The request with fields after its address. -/
def withQuery (fields : List (String × String)) (r : Request) : Request :=
  { r with query := r.query ++ fields }

def withHeaders (fields : List (String × String)) (r : Request) : Request :=
  { r with headers := r.headers ++ fields }

def withCredentials (c : Credentials) (r : Request) : Request :=
  { r with credentials := c }

/-- The request once something has passed. -/
def after (p : Pause) (r : Request) : Request := { r with pause := p }

end Request

/-- What comes back: nothing at all, or a status and a body that may break off.  The body is the
text that the client makes of what was sent. -/
inductive Reply where
  | lost (detail : String)
  | answered (status : Nat) (body : Except String String)
deriving Inhabited

namespace Reply

def accept (what : String) : Reply → Except Fault (Except String String)
  | lost detail => .error (.http (what ++ " request failed: " ++ detail))
  | answered status body =>
    if 200 ≤ status ∧ status < 300 then .ok body
    else
      let said := match body with
        | .ok text => Text.trimmed text
        | .error _ => ""
      .error (.execution (.failed (what ++ " returned " ++ toString status ++ ": " ++ said)))

/-- The value in the body of an accepted reply. -/
def decode {α : Type} (what answer : String) (read : Json.Unread → Option α) (reply : Reply) :
    Except Fault α := do
  match ← reply.accept what with
  | .error detail => throw (.http ("Failed to read " ++ answer ++ " response: " ++ detail))
  | .ok text =>
    match (Json.unread? text).bind read with
    | some a => return a
    | none => throw (.json ("Failed to parse " ++ answer ++ " response: unexpected content"))

def isAccepted (reply : Reply) : Bool :=
  match reply with
  | answered status _ => 200 ≤ status && status < 300
  | lost _ => false

end Reply

/-- An address without the slashes that end it. -/
def serviceRoot (url : String) : String :=
  String.ofList (Text.dropTrailing '/' url.toList)

end QueryDesk.Web
