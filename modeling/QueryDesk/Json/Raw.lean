import QueryDesk.Json.Text

/-!
# JSON texts taken apart

What a text is by the grammar alone: words, numbers as digits, strings as they stand between their
quotes, arrays and objects with all their parts.  Nothing is decoded yet, so a number may be out of
any range, a surrogate may stand alone, a key may come twice, and nesting has no bound.

The reader descends recursively.  Every call consumes a character before it calls itself, so the
length of the text bounds the recursion.
-/

namespace QueryDesk.Json

open QueryDesk.Text (isAsciiDigit)
open QueryDesk.Decimal (exponentPart?)

/-- A number as it is written. -/
structure Numeral where
  negative : Bool
  /-- The digits before the point. -/
  whole : List Char
  fraction : Option (List Char)
  /-- Whether the exponent has a minus, and its digits. -/
  exponent : Option (Bool × List Char)
deriving DecidableEq, Repr, Inhabited

/-- A value as it is written. -/
inductive Raw where
  | null
  | bool (b : Bool)
  | number (n : Numeral)
  /-- The characters between the quotes. -/
  | string (escaped : List Char)
  | array (items : List Raw)
  /-- The members in order, each under the characters between the quotes of its key. -/
  | object (members : List (List Char × Raw))
deriving Inhabited

def isSpace (c : Char) : Bool :=
  c == ' ' || c == '\n' || c == '\t' || c == '\r'

/-- The text after its leading white space. -/
def skipSpace (s : List Char) : List Char :=
  s.dropWhile isSpace

/-- A string after its opening quote, and the rest. -/
def stringBody? (s : List Char) : Option (List Char × List Char) :=
  (scan s).filter fun (escaped, _) => hasKnownEscapes escaped

/-- A number at the head of the text, and the rest. -/
def numeral? (s : List Char) : Option (Numeral × List Char) :=
  let (negative, s) := match s with
    | '-' :: rest => (true, rest)
    | _ => (false, s)
  let whole := s.takeWhile isAsciiDigit
  let rest := s.dropWhile isAsciiDigit
  if whole.isEmpty || (whole.head? == some '0' && whole.length != 1) then none
  else
    let (fraction, rest) := match rest with
      | '.' :: more => (some (more.takeWhile isAsciiDigit), more.dropWhile isAsciiDigit)
      | _ => (none, rest)
    if fraction == some [] then none
    else (exponentPart? rest).map fun (exponent, rest) =>
      (⟨negative, whole, fraction, exponent⟩, rest)

/-- The rest of the text after a word. -/
def word? (word : List Char) (s : List Char) : Option (List Char) :=
  if word.isPrefixOf s then some (s.drop word.length) else none

/-- A value that is neither an array nor an object, and the rest. -/
def scalar? (s : List Char) : Option (Raw × List Char) :=
  match s with
  | '"' :: rest => (stringBody? rest).map fun (escaped, rest) => (.string escaped, rest)
  | 'n' :: _ => (word? ['n', 'u', 'l', 'l'] s).map fun rest => (.null, rest)
  | 't' :: _ => (word? ['t', 'r', 'u', 'e'] s).map fun rest => (.bool true, rest)
  | 'f' :: _ => (word? ['f', 'a', 'l', 's', 'e'] s).map fun rest => (.bool false, rest)
  | _ => (numeral? s).map fun (n, rest) => (.number n, rest)

mutual

/-- A value after white space, and the rest of the text. -/
def raw? : Nat → List Char → Option (Raw × List Char)
  | 0, _ => none
  | fuel + 1, s =>
    match skipSpace s with
    | '[' :: rest =>
      match skipSpace rest with
      | ']' :: rest => some (.array [], rest)
      | rest => (rawItems? fuel rest).map fun (items, rest) => (.array items, rest)
    | '{' :: rest =>
      match skipSpace rest with
      | '}' :: rest => some (.object [], rest)
      | rest => (rawMembers? fuel rest).map fun (ms, rest) => (.object ms, rest)
    | s => scalar? s

/-- The items of an array up to its closing bracket. -/
def rawItems? : Nat → List Char → Option (List Raw × List Char)
  | 0, _ => none
  | fuel + 1, s =>
    match raw? fuel s with
    | none => none
    | some (item, rest) =>
      match skipSpace rest with
      | ']' :: rest => some ([item], rest)
      | ',' :: rest => (rawItems? fuel rest).map fun (items, rest) => (item :: items, rest)
      | _ => none

/-- The members of an object up to its closing brace. -/
def rawMembers? : Nat → List Char → Option (List (List Char × Raw) × List Char)
  | 0, _ => none
  | fuel + 1, s =>
    match skipSpace s with
    | '"' :: rest =>
      match stringBody? rest with
      | none => none
      | some (key, rest) =>
        match skipSpace rest with
        | ':' :: rest =>
          match raw? fuel rest with
          | none => none
          | some (value, rest) =>
            match skipSpace rest with
            | '}' :: rest => some ([(key, value)], rest)
            | ',' :: rest =>
              (rawMembers? fuel rest).map fun (ms, rest) => ((key, value) :: ms, rest)
            | _ => none
        | _ => none
    | _ => none

end

end QueryDesk.Json
