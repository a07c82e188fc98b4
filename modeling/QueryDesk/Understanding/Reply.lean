import QueryDesk.Fault
import QueryDesk.Json.Parser
import QueryDesk.Json.Printer
import QueryDesk.Query.Basic

/-!
# Model replies

The JSON object inside a reply.  The first fenced block is searched before the whole reply; in
either, the object runs from the first brace to the one that balances it, braces inside string
literals aside.
-/

namespace QueryDesk.Reply

/-- Three backticks. -/
def fence : List Char := List.replicate 3 '\x60'

/-- The text of the first fenced block without its opening line; a block that is not closed runs
to the end. -/
def codeBlock? (s : List Char) : Option (List Char) :=
  match Text.splitAtFirst fence s with
  | none => none
  | some (_, opened) =>
    let body := match Text.splitAtFirst ['\n'] opened with
      | some (_, body) => body
      | none => opened
    let content := match Text.splitAtFirst fence body with
      | some (content, _) => content
      | none => body
    some (Text.strip content)

/-- The text up to the brace that brings the depth to zero.  A backslash hides the next
character, a quote opens or closes a string, and braces count outside strings only. -/
def closing? (depth : Nat) (inString escaped : Bool) : List Char → Option (List Char)
  | [] => none
  | c :: rest =>
    if escaped then (closing? depth inString false rest).map (c :: ·)
    else if c = '\\' then (closing? depth inString true rest).map (c :: ·)
    else if c = '"' then (closing? depth (!inString) false rest).map (c :: ·)
    else if c = '{' ∧ ¬inString then (closing? (depth + 1) inString false rest).map (c :: ·)
    else if c = '}' ∧ ¬inString then
      if depth = 1 then some [c] else (closing? (depth - 1) inString false rest).map (c :: ·)
    else (closing? depth inString false rest).map (c :: ·)

/-- The text from the first opening brace to the one that balances it. -/
def balanced? (s : List Char) : Option (List Char) :=
  closing? 0 false false (s.dropWhile (· ≠ '{'))

/-- The object in a reply, from its first fenced block or else from anywhere. -/
def objectChars? (s : List Char) : Option (List Char) :=
  ((codeBlock? s).bind balanced?) <|> balanced? s

/-- The text of the object in a reply. -/
def object (reply : String) : Except ModelFault String :=
  match objectChars? reply.toList with
  | some s => .ok (String.ofList s)
  | none => .error (.unparseable
      ("No JSON object found in response (length: " ++ toString reply.utf8ByteSize ++ ")"))

/-- The text of a value: none for null, blank strings and empty collections, the trimmed text of
a string, and the JSON text of anything else. -/
def fieldText? : Json → Option String
  | .null => none
  | .str s => let t := Text.trimmed s; if t.isEmpty then none else some t
  | .arr [] => none
  | .obj [] => none
  | other => some other.compact

def analysisOf (ms : Json.Members) : Analysis :=
  let text key := (Json.Members.get? key ms).bind fieldText?
  { dataEntity := text "data_entity"
    queryType := text "query_type"
    conditions := text "conditions"
    aggregations := text "aggregations"
    timeRange := text "time_range"
    outputRequirements := text "output_requirements"
    description := text "description"
    fallback := false }

def analysis (reply : String) : Except ModelFault Analysis := do
  let text ← object reply
  match Json.parse text with
  | some (.obj ms) => return analysisOf ms
  | _ => throw (.unparseable "Failed to parse JSON: malformed object")

end QueryDesk.Reply
