import QueryDesk.Web.Address

/-!
# Requests and replies as bytes

How a request is put on a connection that carries it alone, and how the reply is read once the
server has closed it.  A body that is shorter than announced, or whose chunks break off, is a
body that cannot be read; the status still counts.
-/

namespace QueryDesk.Web

/-! ## Requests -/

/-- The digits of three bytes in base 64. -/
def base64Digits : List Char :=
  "ABCDEFGHIJKLMNOPQRSTUVWXYZabcdefghijklmnopqrstuvwxyz0123456789+/".toList

/-- The digit of a value below 64. -/
def base64Digit (n : Nat) : Char := base64Digits.getD (n % 64) 'A'

/-- Bytes in base 64, filled up to whole groups. -/
def base64 : List UInt8 → List Char
  | [] => []
  | [a] =>
    let n := a.toNat * 16
    [base64Digit (n / 64), base64Digit n, '=', '=']
  | [a, b] =>
    let n := (a.toNat * 256 + b.toNat) * 4
    [base64Digit (n / 4096), base64Digit (n / 64), base64Digit n, '=']
  | a :: b :: c :: rest =>
    let n := (a.toNat * 256 + b.toNat) * 256 + c.toNat
    base64Digit (n / 262144) :: base64Digit (n / 4096) :: base64Digit (n / 64) ::
      base64Digit n :: base64 rest

/-- The header field that names who a request is made for. -/
def Credentials.headers : Credentials → List (String × String)
  | none => []
  | login user password =>
    let told := user ++ ":" ++ password.getD ""
    [("Authorization", "Basic " ++ String.ofList (base64 told.toUTF8.toList))]
  | bearer token => [("Authorization", "Bearer " ++ token)]

/-- The kind of a content, where it is told. -/
def Content.headers : Content → List (String × String)
  | empty | text _ => []
  | json _ => [("Content-Type", "application/json")]
  | form _ => [("Content-Type", "application/x-www-form-urlencoded")]

def Content.body : Content → String
  | empty => ""
  | text body => body
  | json value => value.compact
  | form fields => String.ofList (formText fields)

/-- Whether a text may stand in a header field. -/
def isFieldValue (s : String) : Bool :=
  s.toList.all fun c => c = '\t' || (' ' ≤ c && c != '\x7f')

def Request.fields (r : Request) (a : Address) : List (String × String) :=
  let length := match r.method with
    | .post => [("Content-Length", toString r.content.body.utf8ByteSize)]
    | .get | .delete => []
  [("Host", a.authority), ("Accept", "*/*"), ("Connection", "close")] ++
    r.credentials.headers ++ r.content.headers ++ length ++ r.headers

/-- A request as it is sent, if its header fields can be. -/
def Request.wire? (r : Request) (a : Address) : Option String :=
  let fields := r.fields a
  if fields.all fun (_, value) => isFieldValue value then
    some (r.method.name ++ " " ++ a.target ++ " HTTP/1.1\r\n" ++
      String.join (fields.map fun (name, value) => name ++ ": " ++ value ++ "\r\n") ++ "\r\n" ++
      r.content.body)
  else none

/-! ## Replies -/

/-- Bytes up to a line end, and those after it. -/
def takeLine : List UInt8 → Option (List UInt8 × List UInt8)
  | 13 :: 10 :: rest => some ([], rest)
  | [] => none
  | b :: rest => (takeLine rest).map fun (line, rest) => (b :: line, rest)

/-- The text of bytes that are ASCII; other bytes stand for the characters of their numbers. -/
def lineText (line : List UInt8) : List Char := line.map fun b => Char.ofNat b.toNat

def hexValue? (c : Char) : Option Nat :=
  if Text.isAsciiDigit c then some (c.toNat - 48)
  else if 'a' ≤ c ∧ c ≤ 'f' then some (c.toNat - 87)
  else if 'A' ≤ c ∧ c ≤ 'F' then some (c.toNat - 55)
  else none

/-- The length that a chunk's first line gives. -/
def chunkLength? (line : List Char) : Option Nat :=
  let digits := line.takeWhile fun c => (hexValue? c).isSome
  if digits.isEmpty then none
  else some (digits.foldl (fun n c => 16 * n + (hexValue? c).getD 0) 0)

/-- The bytes of a body sent in at most `bound` chunks. -/
def chunks? : Nat → List UInt8 → Option (List UInt8)
  | 0, _ => none
  | bound + 1, bytes => do
    let (line, rest) ← takeLine bytes
    let length ← chunkLength? (lineText line)
    if length = 0 then return []
    else
      guard (length ≤ rest.length)
      let (_, rest') ← takeLine (rest.drop length)
      return rest.take length ++ (← chunks? bound rest')

/-- The header fields, and the bytes after them; names are in lower case. -/
def readFields? : Nat → List UInt8 → Option (List (List Char × List Char) × List UInt8)
  | 0, _ => none
  | bound + 1, bytes => do
    match ← takeLine bytes with
    | ([], rest) => return ([], rest)
    | (line, rest) =>
      let text := lineText line
      let name := text.takeWhile (· != ':')
      let value := Text.strip (text.drop (name.length + 1))
      let (more, body) ← readFields? bound rest
      return ((name.map Text.asciiLower, value) :: more, body)

/-- The number in the first line of a reply. -/
def status? (line : List Char) : Option Nat := do
  match Text.fields ' ' line with
  | version :: status :: _ =>
    guard ("HTTP/1.".toList.isPrefixOf version)
    Text.natural? status
  | _ => none

/-- The bytes of a body, if it is whole. -/
def bodyBytes? (fields : List (List Char × List Char)) (rest : List UInt8) :
    Option (List UInt8) :=
  let isChunked := fields.any fun (name, value) =>
    name == "transfer-encoding".toList && Text.occurs "chunked".toList (value.map Text.asciiLower)
  if isChunked then chunks? (rest.length + 1) rest
  else match fields.lookup "content-length".toList with
    | none => some rest
    | some digits => do
      let length ← Text.natural? digits
      guard (length ≤ rest.length)
      return rest.take length

def bodyText (fields : List (List Char × List Char)) (rest : List UInt8) :
    Except String String :=
  match bodyBytes? fields rest with
  | none => .error "the body breaks off"
  | some bytes =>
    match String.fromUTF8? (ByteArray.mk bytes.toArray) with
    | some text => .ok text
    | none => .error "the body is not text"

/-- A reply read from the bytes of a connection. -/
def Reply.ofBytes (bytes : List UInt8) : Reply :=
  let read : Option Reply := do
    let (line, rest) ← takeLine bytes
    let status ← status? (lineText line)
    let (fields, rest) ← readFields? (rest.length + 1) rest
    return .answered status (bodyText fields rest)
  read.getD (.lost "the reply is malformed")

end QueryDesk.Web
