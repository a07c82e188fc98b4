import QueryDesk.Decimal.Layout
import QueryDesk.Json.Basic

/-!
# Decoding values

The rules by which records, choices and numbers are read from values.  A record is an object,
whose unknown keys are passed over, or an array of its fields in order; an absent optional field
is the same as null in an object, while an array may only leave out trailing fields that have a
default.
-/

namespace QueryDesk.Json

/-- What a record's field is found to be. -/
inductive Slot (V : Type) where
  /-- The object has no such key. -/
  | missing
  /-- The array ends before the field. -/
  | beyond
  | present (value : V)

namespace Slot

variable {V α : Type}

/-- The fields of a record that is written as an array. -/
def ofItems? (fields : Nat) (items : List V) : Option (List (Slot V)) :=
  if items.length ≤ fields then
    some (items.map .present ++ List.replicate (fields - items.length) .beyond)
  else none

/-- A field that has to be there. -/
def required (decode : V → Option α) : Slot V → Option α
  | .present v => decode v
  | _ => none

/-- A field with a value for when it is left out. -/
def withDefault (default : α) (decode : V → Option α) : Slot V → Option α
  | .present v => decode v
  | _ => some default

/-- A field that may be missing from an object, or null. -/
def optional (decode : Json → Option α) : Slot Json → Option (Option α)
  | .present .null => some none
  | .present v => (decode v).map some
  | .missing => some none
  | .beyond => none

/-- A field that may be left out or null. -/
def optionalDefault (decode : Json → Option α) : Slot Json → Option (Option α)
  | .present .null => some none
  | .present v => (decode v).map some
  | _ => some none

end Slot

/-- The fields of a record, by name from an object or by position from an array. -/
def slots? (names : List String) : Json → Option (List (Slot Json))
  | .obj ms => some (names.map fun name =>
      match Members.get? name ms with
      | some v => .present v
      | none => .missing)
  | .arr items => Slot.ofItems? names.length items
  | _ => none

def slot {V : Type} (slots : List (Slot V)) (i : Nat) : Slot V :=
  slots.getD i .beyond

/-- A choice by name: the name alone, or an object with it as its only key and null under it. -/
def choice? {α : Type} (ofName : String → Option α) : Json → Option α
  | .str s => ofName s
  | .obj [(k, .null)] => ofName k
  | _ => none

def int64? : Json → Option Int64
  | .int n => if Decimal.isSigned 64 n then some (Int64.ofInt n) else none
  | _ => none

def uint32? : Json → Option UInt32
  | .int n => if Decimal.isUnsigned 32 n then some (UInt32.ofNat n.toNat) else none
  | _ => none

def uint8? : Json → Option UInt8
  | .int n => if Decimal.isUnsigned 8 n then some (UInt8.ofNat n.toNat) else none
  | _ => none

def nat? : Json → Option Nat
  | .int n => if 0 ≤ n then some n.toNat else none
  | _ => none

def asObject? : Json → Option Members
  | .obj ms => some ms
  | _ => none

def list? {α : Type} (decode : Json → Option α) : Json → Option (List α)
  | .arr items => items.mapM decode
  | _ => none

/-- A value or null. -/
def nullable? {α : Type} (decode : Json → Option α) : Json → Option (Option α)
  | .null => some none
  | v => (decode v).map some

/-- A 32-bit value as the double with the same shortest text. -/
def ofFloat32 (x : Float32) : Json :=
  if x.isFinite then
    let d := Decimal.ofFloat32 x
    let magnitude := Decimal.nearest d.digits d.exponent
    .float (if Decimal.isNegative32 x then -magnitude else magnitude)
  else .null

def asFloat32? (j : Json) : Option Float32 :=
  j.asFloat?.map Float.toFloat32

end QueryDesk.Json
