import QueryDesk.Toml.Scalar
import QueryDesk.Toml.Table

/-!
# Reading TOML

A document is read line by line: headers choose the table that the keys after them belong to.
Every call consumes a character before it calls itself, so the length of the text bounds the
recursion; arrays and inline tables nest at most 80 levels deep.
-/

namespace QueryDesk.Toml

def skipBlanks (s : List Char) : List Char := s.dropWhile isBlank

/-- The text after a comment, if one is there; a comment holds plain characters. -/
def skipComment? (s : List Char) : Option (List Char) :=
  match s with
  | '#' :: rest =>
    match rest.dropWhile isPlain with
    | [] => some []
    | '\n' :: after => some ('\n' :: after)
    | '\r' :: '\n' :: after => some ('\n' :: after)
    | _ => none
  | _ => some s

/-- The text after the end of a line, with blanks and a comment before it. -/
def endLine? (s : List Char) : Option (List Char) := do
  match ← skipComment? (skipBlanks s) with
  | [] => some []
  | '\n' :: rest => some rest
  | '\r' :: '\n' :: rest => some rest
  | _ => none

/-- The text after blanks, ends of lines and comments. -/
def skipLines : Nat → List Char → Option (List Char)
  | 0, s => some s
  | fuel + 1, s =>
    match skipBlanks s with
    | '\n' :: rest => skipLines fuel rest
    | '\r' :: '\n' :: rest => skipLines fuel rest
    | '#' :: rest => do skipLines fuel (← skipComment? ('#' :: rest))
    | s => some s

/-- Whether a character may be part of a bare key. -/
def isKeyChar (c : Char) : Bool :=
  Text.isAsciiDigit c || ('a' ≤ c && c ≤ 'z') || ('A' ≤ c && c ≤ 'Z') || c == '_' || c == '-'

/-- One part of a key, bare or quoted. -/
def keyPart? (s : List Char) : Option (String × List Char) :=
  match s with
  | '"' :: rest => (basic rest).map fun (k, rest) => (String.ofList k, rest)
  | '\'' :: rest => (literal rest).map fun (k, rest) => (String.ofList k, rest)
  | _ =>
    let bare := s.takeWhile isKeyChar
    if bare.isEmpty then none else some (String.ofList bare, s.dropWhile isKeyChar)

/-- A dotted key: the parts before the last, the last, and the rest of the text. -/
def key? : Nat → List Char → Option (List String × String × List Char)
  | 0, _ => none
  | fuel + 1, s => do
    let (part, rest) ← keyPart? (skipBlanks s)
    match skipBlanks rest with
    | '.' :: rest =>
      let (path, last, rest) ← key? fuel rest
      return (part :: path, last, rest)
    | rest => return ([], part, rest)

mutual

/-- A value, and the rest of the text. -/
def value? (depth : Nat) : Nat → List Char → Option (Json × List Char)
  | 0, _ => none
  | fuel + 1, s =>
    match s, depth with
    | '[' :: _, 0 => none
    | '{' :: _, 0 => none
    | '[' :: rest, depth + 1 =>
      (items? depth fuel rest).map fun (items, rest) => (.arr items, rest)
    | '{' :: rest, depth + 1 =>
      match skipBlanks rest with
      | '}' :: rest => some (.obj [], rest)
      | rest => (pairs? depth fuel [] rest).map fun (b, rest) => (.obj (membersToJson b), rest)
    | c :: rest, _ =>
      if c == '"' || c == '\'' then
        (string? (c :: rest)).map fun (text, rest) => (.str (String.ofList text), rest)
      else
        let (word, rest) := scalarText (c :: rest)
        (scalar? word).map fun v => (v, rest)
    | [], _ => none

/-- The items of an array up to its closing bracket. -/
def items? (depth : Nat) : Nat → List Char → Option (List Json × List Char)
  | 0, _ => none
  | fuel + 1, s => do
    match ← skipLines (s.length + 1) s with
    | ']' :: rest => some ([], rest)
    | s =>
      let (v, rest) ← value? depth fuel s
      match ← skipLines (rest.length + 1) rest with
      | ']' :: rest => some ([v], rest)
      | ',' :: rest =>
        let (more, rest) ← items? depth fuel rest
        some (v :: more, rest)
      | _ => none

/-- The members of an inline table up to its closing brace. -/
def pairs? (depth : Nat) : Nat → Body → List Char → Option (Body × List Char)
  | 0, _, _ => none
  | fuel + 1, b, s => do
    let (path, last, rest) ← key? (s.length + 1) s
    match rest with
    | '=' :: rest =>
      let (v, rest) ← value? depth fuel (skipBlanks rest)
      let b ← b.addValue last v path
      match skipBlanks rest with
      | '}' :: rest => some (b, rest)
      | ',' :: rest => pairs? depth fuel b rest
      | _ => none
    | _ => none

end

/-- A document and the header that its next keys belong to. -/
structure Document where
  root : Body
  current : List String

/-- The number of levels that arrays and inline tables may nest. -/
def maxDepth : Nat := 80

/-- A header, from its opening bracket on. -/
def header? (d : Document) (s : List Char) : Option (Document × List Char) :=
  match s with
  | '[' :: '[' :: rest => do
    let (path, last, rest) ← key? (rest.length + 1) rest
    match rest with
    | ']' :: ']' :: rest =>
      let root ← d.root.within (Body.openNext last) path
      return (⟨root, path ++ [last]⟩, rest)
    | _ => none
  | '[' :: rest => do
    let (path, last, rest) ← key? (rest.length + 1) rest
    match rest with
    | ']' :: rest =>
      let root ← d.root.within (Body.openTable last) path
      return (⟨root, path ++ [last]⟩, rest)
    | _ => none
  | _ => none

def assignment? (d : Document) (s : List Char) : Option (Document × List Char) := do
  let (path, last, rest) ← key? (s.length + 1) s
  match rest with
  | '=' :: rest =>
    let (v, rest) ← value? maxDepth (rest.length + 1) (skipBlanks rest)
    let root ← d.root.within (Body.addValue last v path) d.current
    return ({ d with root := root }, rest)
  | _ => none

def document? : Nat → Document → List Char → Option Document
  | 0, _, _ => none
  | fuel + 1, d, s => do
    match ← skipLines (s.length + 1) s with
    | [] => some d
    | '[' :: rest =>
      let (d, rest) ← header? d ('[' :: rest)
      document? fuel d (← endLine? rest)
    | s =>
      let (d, rest) ← assignment? d s
      document? fuel d (← endLine? rest)

/-- The text without the mark that may start it. -/
def withoutMark : List Char → List Char
  | '\ufeff' :: rest => rest
  | s => s

def parse (text : String) : Option Json.Members :=
  let s := withoutMark text.toList
  (document? (s.length + 1) ⟨[], []⟩ s).map fun d => membersToJson d.root

end QueryDesk.Toml
