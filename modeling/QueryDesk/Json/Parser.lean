import QueryDesk.Json.Raw

/-!
# Reading JSON

What a text stands for once it has been taken apart.  Arrays and objects nest at most 127 levels
deep; a number has to lie in the range of doubles, and a surrogate has to be part of a pair.
-/

namespace QueryDesk.Json

open QueryDesk.Text (digitsValue)
open QueryDesk.Decimal (scaled?)

/-- Takes digits into a significand as long as it fits a 64-bit word; answers the significand
and the number of digits left out. -/
def takeDigits (significand : Nat) : List Char → Nat × Nat
  | [] => (significand, 0)
  | d :: ds =>
    let next := 10 * significand + digitsValue [d]
    if Decimal.words 64 ≤ next then (significand, ds.length + 1) else takeDigits next ds

/-- The value of the parts of a number.  Without a fraction and an exponent it is an integer as
long as it fits a word, and minus zero is a double; otherwise the leading digits are scaled by
the power of ten. -/
def numberValue? (negative : Bool) (whole : List Char) (fraction : Option (List Char))
    (exponent : Option (Bool × List Char)) : Option Json :=
  let (significand, dropped) := takeDigits 0 whole
  match fraction, exponent with
  | none, none =>
    if dropped = 0 ∧ ¬negative then some (.int significand)
    else if dropped = 0 ∧ significand ≠ 0 ∧ significand ≤ Decimal.words 63 then
      some (.int (-significand))
    else signed negative (scaled? significand dropped)
  | _, _ =>
    let places := fraction.getD []
    let (significand, left) := takeDigits significand places
    let shift : Int := dropped - (places.length - left : Nat)
    match exponent with
    | none => signed negative (scaled? significand shift)
    | some (negativeExponent, ds) =>
      let n := digitsValue ds
      if Decimal.words 31 ≤ n then
        if significand ≠ 0 ∧ ¬negativeExponent then none else signed negative (some 0.0)
      else signed negative
        (scaled? significand (shift + (if negativeExponent then -(n : Int) else n)))
where
  signed (negative : Bool) (x : Option Float) : Option Json :=
    x.map fun x => .float (if negative then -x else x)

def Numeral.value? (n : Numeral) : Option Json :=
  numberValue? n.negative n.whole n.fraction n.exponent

/-- The text that the characters between two quotes stand for. -/
def text? (escaped : List Char) : Option String :=
  (unescape escaped).map String.ofList

mutual

/-- What a value stands for in which arrays and objects may nest up to a depth. -/
def Raw.value? (depth : Nat) : Raw → Option Json
  | .null => some .null
  | .bool b => some (.bool b)
  | .number n => n.value?
  | .string escaped => (text? escaped).map .str
  | .array items =>
    match depth with
    | 0 => none
    | depth + 1 => (values? depth items).map .arr
  | .object ms =>
    match depth with
    | 0 => none
    | depth + 1 => (memberValues? depth ms).map fun ms => .obj (Members.ofList ms)

def values? (depth : Nat) : List Raw → Option (List Json)
  | [] => some []
  | item :: items => do
    let item ← item.value? depth
    let items ← values? depth items
    return item :: items

def memberValues? (depth : Nat) : List (List Char × Raw) → Option (List (String × Json))
  | [] => some []
  | (key, value) :: ms => do
    let key ← text? key
    let value ← value.value? depth
    let ms ← memberValues? depth ms
    return (key, value) :: ms

end

/-- A value that is still to be read, and how deep it may nest. -/
structure Unread where
  depth : Nat
  raw : Raw
deriving Inhabited

def Unread.value? (u : Unread) : Option Json :=
  u.raw.value? u.depth

/-- The deepest nesting of arrays and objects that is read. -/
def maxDepth : Nat := 127

/-- Takes a text apart that holds one value and white space. -/
def unreadChars? (s : List Char) : Option Unread :=
  match raw? (2 * s.length + 2) s with
  | some (r, rest) => if (skipSpace rest).isEmpty then some ⟨maxDepth, r⟩ else none
  | none => none

def unread? (s : String) : Option Unread :=
  unreadChars? s.toList

/-- Reads a string that holds one value and white space. -/
def parse (s : String) : Option Json :=
  (unread? s).bind Unread.value?

end QueryDesk.Json
