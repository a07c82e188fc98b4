import QueryDesk.Json.Basic

/-!
# TOML tables

A document being built up.  A table comes about by a header, by a dotted key, or on the way to
one of these; which of them decides what may still be added to it.  Values, among them arrays and
inline tables, are closed once they are written.
-/

namespace QueryDesk.Toml

/-- How a table came about. -/
inductive Origin where
  /-- On the way to the table of a header. -/
  | path
  | dotted
  | header
deriving DecidableEq, Repr, Inhabited

/-- What stands under a key. -/
inductive Node where
  | value (v : Json)
  | table (origin : Origin) (members : List (String × Node))
  /-- An array of tables, the last one first. -/
  | tables (last : List (String × Node)) (before : List (List (String × Node)))
deriving Inhabited

/-- The keys of a table and what stands under them. -/
abbrev Body := List (String × Node)

namespace Body

def get? (key : String) : Body → Option Node
  | [] => none
  | (k, n) :: rest => if k = key then some n else get? key rest

/-- Puts something under a key, in place if the key is there. -/
def put (key : String) (node : Node) : Body → Body
  | [] => [(key, node)]
  | (k, n) :: rest => if k = key then (key, node) :: rest else (k, n) :: put key node rest

/-- Adds a value under a dotted key.  The tables on the way are those of dotted keys, or on the
way to a header's; the last of them is that of a dotted key. -/
def addValue (key : String) (v : Json) : List String → Body → Option Body
  | [], b =>
    match b.get? key with
    | some _ => none
    | none => some (b ++ [(key, .value v)])
  | k :: path, b =>
    match b.get? k with
    | none => (addValue key v path []).map fun inner => b ++ [(k, .table .dotted inner)]
    | some (.table .dotted inner) =>
      (addValue key v path inner).map fun inner => b.put k (.table .dotted inner)
    | some (.table .path inner) =>
      if path.isEmpty then none
      else (addValue key v path inner).map fun inner => b.put k (.table .path inner)
    | some _ => none

/-- Changes the table at the end of a path of headers, through the last of every array. -/
def within (change : Body → Option Body) : List String → Body → Option Body
  | [], b => change b
  | k :: path, b =>
    match b.get? k with
    | none => (within change path []).map fun inner => b ++ [(k, .table .path inner)]
    | some (.table origin inner) =>
      (within change path inner).map fun inner => b.put k (.table origin inner)
    | some (.tables last before) =>
      (within change path last).map fun inner => b.put k (.tables inner before)
    | some (.value _) => none

/-- Opens the table of a header, which is new or was only on the way to another one. -/
def openTable (key : String) (b : Body) : Option Body :=
  match b.get? key with
  | none => some (b ++ [(key, .table .header [])])
  | some (.table .path inner) => some (b.put key (.table .header inner))
  | some _ => none

/-- Opens the next table of an array. -/
def openNext (key : String) (b : Body) : Option Body :=
  match b.get? key with
  | none => some (b ++ [(key, .tables [] [])])
  | some (.tables last before) => some (b.put key (.tables [] (last :: before)))
  | some _ => none

end Body

mutual

def Node.toJson : Node → Json
  | .value v => v
  | .table _ members => .obj (membersToJson members)
  | .tables last before => .arr ((.obj (membersToJson last) :: bodiesToJson before).reverse)

def membersToJson : List (String × Node) → Json.Members
  | [] => []
  | (k, n) :: rest => (k, n.toJson) :: membersToJson rest

def bodiesToJson : List (List (String × Node)) → List Json
  | [] => []
  | b :: rest => .obj (membersToJson b) :: bodiesToJson rest

end

end QueryDesk.Toml
