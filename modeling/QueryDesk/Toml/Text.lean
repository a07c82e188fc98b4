import QueryDesk.Text.Search

/-!
# TOML strings

The four kinds of strings: with escapes or as they stand, on one line or on several.  A reader
takes the text after the opening quotes and answers the string's characters and the rest after
the closing quotes.
-/

namespace QueryDesk.Toml

/-- Whether a character may stand in a comment or a string as it is. -/
def isPlain (c : Char) : Bool :=
  c == '\t' || (0x20 ≤ c.toNat && c.toNat != 0x7F)

/-- Blanks within a line. -/
def isBlank (c : Char) : Bool := c == ' ' || c == '\t'

def hexDigit? (c : Char) : Option Nat :=
  if '0' ≤ c ∧ c ≤ '9' then some (c.toNat - 48)
  else if 'a' ≤ c ∧ c ≤ 'f' then some (c.toNat - 87)
  else if 'A' ≤ c ∧ c ≤ 'F' then some (c.toNat - 55)
  else none

def charOfHex? (digits : List Char) : Option Char := do
  let values ← digits.mapM hexDigit?
  let code := values.foldl (fun n d => 16 * n + d) 0
  if code.isValidChar then some (Char.ofNat code) else none

/-- The character that a letter after a backslash stands for. -/
def escaped? : Char → Option Char
  | 'b' => some '\x08'
  | 't' => some '\t'
  | 'n' => some '\n'
  | 'f' => some '\x0c'
  | 'r' => some '\r'
  | '"' => some '"'
  | '\\' => some '\\'
  | _ => none

/-- One more character in front of what was read. -/
def push (c : Char) (r : List Char × List Char) : List Char × List Char := (c :: r.1, r.2)

/-- A string with escapes on one line. -/
def basic : List Char → Option (List Char × List Char)
  | [] => none
  | '"' :: rest => some ([], rest)
  | '\\' :: 'u' :: a :: b :: c :: d :: rest =>
    match charOfHex? [a, b, c, d] with
    | some x => (basic rest).map (push x)
    | none => none
  | '\\' :: 'U' :: a :: b :: c :: d :: e :: f :: g :: h :: rest =>
    match charOfHex? [a, b, c, d, e, f, g, h] with
    | some x => (basic rest).map (push x)
    | none => none
  | '\\' :: c :: rest =>
    match escaped? c with
    | some x => (basic rest).map (push x)
    | none => none
  | c :: rest => if isPlain c then (basic rest).map (push c) else none

/-- A string as it stands on one line. -/
def literal : List Char → Option (List Char × List Char)
  | [] => none
  | '\'' :: rest => some ([], rest)
  | c :: rest => if isPlain c then (literal rest).map (push c) else none

/-- Where a reader of several lines stands: in the text, or past a backslash that joins lines,
before or after the end of its line. -/
inductive Joining where
  | no | line | next
deriving DecidableEq

/-- A string with escapes on several lines.  A backslash at the end of a line takes away the
white space up to the next character. -/
def basicLines : Joining → List Char → Option (List Char × List Char)
  | _, [] => none
  | .line, '\n' :: rest => basicLines .next rest
  | .line, '\r' :: '\n' :: rest => basicLines .next rest
  | .next, '\n' :: rest => basicLines .next rest
  | .next, '\r' :: '\n' :: rest => basicLines .next rest
  | .no, '\n' :: rest => (basicLines .no rest).map (push '\n')
  | .no, '\r' :: '\n' :: rest => (basicLines .no rest).map (push '\n')
  | joining, c :: rest =>
    if joining ≠ .no ∧ isBlank c then basicLines joining rest
    else if joining = .line then none
    else match c, rest with
      | '"', '"' :: '"' :: '"' :: '"' :: rest => some (['"', '"'], rest)
      | '"', '"' :: '"' :: '"' :: rest => some (['"'], rest)
      | '"', '"' :: '"' :: rest => some ([], rest)
      | '\\', 'u' :: a :: b :: c :: d :: rest =>
        match charOfHex? [a, b, c, d] with
        | some x => (basicLines .no rest).map (push x)
        | none => none
      | '\\', 'U' :: a :: b :: c :: d :: e :: f :: g :: h :: rest =>
        match charOfHex? [a, b, c, d, e, f, g, h] with
        | some x => (basicLines .no rest).map (push x)
        | none => none
      | '\\', d :: rest =>
        match escaped? d with
        | some x => (basicLines .no rest).map (push x)
        | none =>
          if isBlank d || d == '\n' || d == '\r' then basicLines .line (d :: rest) else none
      | c, rest => if isPlain c then (basicLines .no rest).map (push c) else none

/-- A string as it stands on several lines. -/
def literalLines : List Char → Option (List Char × List Char)
  | [] => none
  | '\'' :: '\'' :: '\'' :: '\'' :: '\'' :: rest => some (['\'', '\''], rest)
  | '\'' :: '\'' :: '\'' :: '\'' :: rest => some (['\''], rest)
  | '\'' :: '\'' :: '\'' :: rest => some ([], rest)
  | '\n' :: rest => (literalLines rest).map (push '\n')
  | '\r' :: '\n' :: rest => (literalLines rest).map (push '\n')
  | c :: rest => if isPlain c then (literalLines rest).map (push c) else none

/-- The text without the end of line that starts it. -/
def dropNewline : List Char → List Char
  | '\n' :: rest => rest
  | '\r' :: '\n' :: rest => rest
  | s => s

/-- A string of any kind, from its opening quotes on. -/
def string? : List Char → Option (List Char × List Char)
  | '"' :: '"' :: '"' :: rest => basicLines .no (dropNewline rest)
  | '\'' :: '\'' :: '\'' :: rest => literalLines (dropNewline rest)
  | '"' :: rest => basic rest
  | '\'' :: rest => literal rest
  | _ => none

end QueryDesk.Toml
