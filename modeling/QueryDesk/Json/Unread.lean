import QueryDesk.Json.Decode
import QueryDesk.Json.Parser

/-!
# Reading by type

How a text is read when it is known beforehand what it should hold.  Only what the type asks for is
read.  A member of a record that is none of its fields is passed over as it is written: what stands
there need not stand for anything, and may nest to any depth.  A field that is written twice is
refused.
-/

namespace QueryDesk.Json

namespace Unread

variable {α : Type}

/-- A value that is read as a whole before it is taken for something. -/
def whole? (decode : Json → Option α) (u : Unread) : Option α :=
  u.value?.bind decode

def string? : Unread → Option String :=
  whole? asString?

/-- A value or null. -/
def nullable? (read : Unread → Option α) (u : Unread) : Option (Option α) :=
  match u.raw with
  | .null => some none
  | _ => (read u).map some

/-- The items of an array, a level down. -/
def items? : Unread → Option (List Unread)
  | ⟨depth + 1, .array items⟩ => some (items.map (⟨depth, ·⟩))
  | _ => none

def list? (read : Unread → Option α) (u : Unread) : Option (List α) := do
  (← u.items?).mapM read

/-- The members of an object under what their keys stand for, a level down. -/
def members? : Unread → Option (List (String × Unread))
  | ⟨depth + 1, .object ms⟩ =>
    ms.mapM fun (key, value) => (text? key).map fun key => (key, ⟨depth, value⟩)
  | _ => none

/-- The field under a name, if it is not written twice. -/
def fieldIn? (ms : List (String × Unread)) (name : String) : Option (Slot Unread) :=
  match ms.filter (·.1 = name) with
  | [] => some .missing
  | [(_, value)] => some (.present value)
  | _ => none

/-- The fields of a record, by name from an object or by position from an array. -/
def slots? (names : List String) (u : Unread) : Option (List (Slot Unread)) :=
  match u.raw with
  | .array _ => do Slot.ofItems? names.length (← u.items?)
  | _ => do names.mapM (fieldIn? (← u.members?))

/-- A choice by name: the name alone, or an object with it as its only key and null under it. -/
def choice? (ofName : String → Option α) : Unread → Option α
  | ⟨_ + 1, .object [(key, .null)]⟩ => (text? key).bind ofName
  | u => u.string?.bind ofName

end Unread

/-- A field that may be left out or null. -/
def Slot.nullable {α : Type} (read : Unread → Option α) : Slot Unread → Option (Option α) :=
  withDefault none (Unread.nullable? read)

end QueryDesk.Json
