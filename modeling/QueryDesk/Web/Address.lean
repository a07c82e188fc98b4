import QueryDesk.Text.Search
import QueryDesk.Web.Message

/-!
# Addresses

Where a request goes: the host and the port of a plain web address, and the target asked for
there.  Characters that may not stand in a target are written as their escaped bytes; fields are
written with `+` for a blank.
-/

namespace QueryDesk.Web

/-- A byte as a percent sign and two digits. -/
def escapedByte (b : UInt8) : List Char :=
  ['%', (Nat.digitChar (b.toNat / 16)).toUpper, (Nat.digitChar (b.toNat % 16)).toUpper]

/-- A text in which every character that does not pass is written as its escaped bytes. -/
def escaped (passes : Char → Bool) (s : List Char) : List Char :=
  s.flatMap fun c => if passes c then [c] else (String.utf8EncodeChar c).flatMap escapedByte

/-- Whether a character stands for itself in a target. -/
def passesInTarget (c : Char) : Bool :=
  '!' ≤ c && c ≤ '~' && !(['"', '#', '<', '>', '`', '\x7b', '\x7d'].contains c)

/-- Whether a character stands for itself in a field. -/
def passesInField (c : Char) : Bool :=
  c.isAlphanum || ['*', '-', '.', '_', ' '].contains c

/-- The name or the value of a field. -/
def fieldText (s : String) : List Char :=
  (escaped passesInField s.toList).map fun c => if c = ' ' then '+' else c

def formText (fields : List (String × String)) : List Char :=
  ['&'].intercalate (fields.map fun (name, value) => fieldText name ++ '=' :: fieldText value)

/-- Where a request goes. -/
structure Address where
  host : String
  port : UInt16
  target : String
deriving DecidableEq, Repr, Inhabited

namespace Address

/-- The port of a plain address that names none. -/
def defaultPort : UInt16 := 80

/-- The host with the port, as it is told to the server. -/
def authority (a : Address) : String :=
  if a.port = defaultPort then a.host else a.host ++ ":" ++ toString a.port.toNat

/-- A host, and the port after the last colon. -/
def hostAndPort? (s : List Char) : Option (String × UInt16) :=
  if s.contains ':' then do
    let digits := Text.afterLast ':' s
    let host := s.take (s.length - digits.length - 1)
    let port ← if digits.isEmpty then some defaultPort.toNat else Text.natural? digits
    guard (!host.isEmpty && port < Decimal.words 16)
    return (String.ofList host, UInt16.ofNat port)
  else do
    guard (!s.isEmpty)
    return (String.ofList s, defaultPort)

/-- The target of a path with the fields of a request after those it has. -/
def targetText (path : List Char) (fields : List (String × String)) : List Char :=
  let path := escaped passesInTarget (path.takeWhile (· != '#'))
  let path := if path.head? = some '/' then path else '/' :: path
  if fields.isEmpty then path
  else path ++ (if path.contains '?' then '&' else '?') :: formText fields

/-- The address of a request over a plain connection. -/
def ofRequest? (r : Request) : Option Address := do
  let scheme := "http://".toList
  let url := r.url.toList
  guard ((url.take scheme.length).map Text.asciiLower == scheme)
  let rest := url.drop scheme.length
  let authority := rest.takeWhile fun c => c != '/' && c != '?' && c != '#'
  let (host, port) ← hostAndPort? (Text.afterLast '@' authority)
  return ⟨host, port, String.ofList (targetText (rest.drop authority.length) r.query)⟩

end Address

end QueryDesk.Web
