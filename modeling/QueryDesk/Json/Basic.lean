import QueryDesk.Decimal.Read

/-!
# JSON values

Values whose objects keep the order of their members.  An object holds each key once: writing a
key again keeps its first place and takes the last value.  Numbers are integers or finite
doubles, and the two are told apart.
-/

namespace QueryDesk

/-- A JSON value. -/
inductive Json where
  | null
  | bool (b : Bool)
  | int (n : Int)
  | float (x : Float)
  | str (s : String)
  | arr (items : List Json)
  | obj (members : List (String × Json))
deriving Inhabited

namespace Json

/-- The members of an object, in order. -/
abbrev Members := List (String × Json)

/-- A number, or null where the double is not finite. -/
def ofFloat (x : Float) : Json :=
  if x.isFinite then .float x else .null

def ofNat (n : Nat) : Json := .int n

/-- A value or null. -/
def ofOption {α : Type} (encode : α → Json) : Option α → Json
  | none => .null
  | some a => encode a

def ofStrings (xs : List String) : Json :=
  .arr (xs.map .str)

/-- Writes a member: in place if the key is there, else at the end. -/
def Members.put (key : String) (value : Json) : Members → Members
  | [] => [(key, value)]
  | (k, v) :: rest =>
    if k = key then (key, value) :: rest else (k, v) :: Members.put key value rest

/-- Members with each key once. -/
def Members.ofList (ms : List (String × Json)) : Members :=
  ms.foldl (fun acc (k, v) => Members.put k v acc) []

def Members.get? (key : String) : Members → Option Json
  | [] => none
  | (k, v) :: rest => if k = key then some v else Members.get? key rest

def Members.keys (ms : Members) : List String :=
  ms.map Prod.fst

/-- The member of an object under a key. -/
def get? (key : String) : Json → Option Json
  | .obj ms => Members.get? key ms
  | _ => none

/-- The member under a key, null counting as absent. -/
def field? (key : String) (j : Json) : Option Json :=
  match j.get? key with
  | some .null => none
  | other => other

def asString? : Json → Option String
  | .str s => some s
  | _ => none

def asArray? : Json → Option (List Json)
  | .arr items => some items
  | _ => none

def asBool? : Json → Option Bool
  | .bool b => some b
  | _ => none

/-- An integer in the range of 64-bit unsigned words. -/
def asWord? : Json → Option UInt64
  | .int n => if Decimal.isUnsigned 64 n then some (UInt64.ofNat n.toNat) else none
  | _ => none

def asFloat? : Json → Option Float
  | .int n => some (Float.ofInt n)
  | .float x => some x
  | _ => none

/-! ## Members -/

namespace Members

theorem get?_put (key key' : String) (value : Json) (ms : Members) :
    get? key' (put key value ms) = if key = key' then some value else get? key' ms := by
  induction ms with
  | nil => simp [put, get?]
  | cons m rest ih =>
    obtain ⟨k, v⟩ := m
    by_cases hk : k = key
    · subst hk
      by_cases h : k = key' <;> simp [put, get?, h]
    · by_cases h : key = key'
      · subst h
        simp [put, get?, hk, ih]
      · by_cases h' : k = key'
        · subst h'
          simp [put, get?, hk, h]
        · simp [put, get?, hk, h, h', ih]

end Members

end Json

end QueryDesk
