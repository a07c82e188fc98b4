import QueryDesk.Decimal.Layout
import QueryDesk.Json.Decode

/-!
# Coercion of settings

Configuration files are read generously: a number may be written as text, a truth value as a
word, and a text as a number.  A shape says what is wanted where, and a value is made to conform
to it before it is decoded.
-/

namespace QueryDesk

/-- What is wanted in a place of the configuration. -/
inductive Shape where
  | text
  | word
  | number
  | choice
  | list (item : Shape)
  | table (item : Shape)
  | record (fields : List (String × Shape))

namespace Shape

/-- The words that stand for a truth value, in any case. -/
def truth? (s : String) : Option Bool :=
  if ["true", "on", "yes"].any (Text.sameIgnoringAsciiCase · s) then some true
  else if ["false", "off", "no"].any (Text.sameIgnoringAsciiCase · s) then some false
  else none

def textOf? : Json → Option Json
  | .str s => some (.str s)
  | .bool b => some (.str (if b then "true" else "false"))
  | .int n => some (.str (String.ofList (Decimal.intText n)))
  | .float x => some (.str (String.ofList (Decimal.plainText x)))
  | .null => some .null
  | _ => none

/-- A whole number for a scalar; a fraction is rounded, halves away from zero. -/
def wordOf? : Json → Option Json
  | .int n => some (.int n)
  | .bool b => some (.int (if b then 1 else 0))
  | .float x => some (.ofNat x.round.toUInt64.toNat)
  | .str s =>
    match truth? s with
    | some b => some (.int (if b then 1 else 0))
    | none => (Text.word? s.toList).map Json.ofNat
  | _ => none

def numberOf? : Json → Option Json
  | .int n => some (.float (Float.ofInt n))
  | .float x => some (.float x)
  | .bool b => some (.float (if b then 1.0 else 0.0))
  | .str s =>
    match truth? s with
    | some b => some (.float (if b then 1.0 else 0.0))
    | none => (Decimal.float? s.toList).map .float
  | _ => none

/-- The name of a choice: a text, or the only key of a table. -/
def choiceOf? : Json → Option Json
  | .str s => some (.str s)
  | .obj [(k, _)] => some (.str k)
  | _ => none

mutual

/-- A value made to conform to a shape. -/
def conform : Shape → Json → Option Json
  | text, v => textOf? v
  | word, v => wordOf? v
  | number, v => numberOf? v
  | choice, v => choiceOf? v
  | list item, .arr items => (items.mapM (conform item)).map .arr
  | table item, .obj ms =>
    (ms.mapM fun m => (conform item m.2).map fun v => (m.1, v)).map .obj
  | record fields, .obj ms => (conformMembers fields ms).map .obj
  | record fields, .arr items => (conformItems fields items).map .arr
  | _, _ => none

/-- The members of a record that are there. -/
def conformMembers : List (String × Shape) → Json.Members → Option Json.Members
  | [], _ => some []
  | (key, shape) :: rest, ms => do
    let more ← conformMembers rest ms
    match Json.Members.get? key ms with
    | some v => return (key, ← conform shape v) :: more
    | none => return more

/-- The fields of a record by position; surplus items are passed over. -/
def conformItems : List (String × Shape) → List Json → Option (List Json)
  | (_, shape) :: rest, v :: items => do
    return (← conform shape v) :: (← conformItems rest items)
  | _, _ => some []

end

end Shape

end QueryDesk
