import QueryDesk.Fault

/-!
# Identifiers

Plain SQL identifiers: a letter or underscore followed by letters, digits and underscores, all
ASCII.  Every name that reaches a statement outside a literal is one, which the type records.
-/

namespace QueryDesk.Sql

/-- Whether the character may start an identifier. -/
def startsIdentifier (c : Char) : Bool :=
  ('a' ≤ c && c ≤ 'z') || ('A' ≤ c && c ≤ 'Z') || c == '_'

/-- Whether the character may continue an identifier. -/
def continuesIdentifier (c : Char) : Bool :=
  startsIdentifier c || ('0' ≤ c && c ≤ '9')

/-- Whether the text is a plain identifier. -/
def isIdentifierChars : List Char → Bool
  | [] => false
  | c :: rest => startsIdentifier c && rest.all continuesIdentifier

/-- Whether the name is a plain identifier. -/
def isIdentifier (name : String) : Bool :=
  isIdentifierChars name.toList

/-- A plain identifier. -/
structure Identifier where
  name : String
  plain : isIdentifier name = true
deriving DecidableEq

/-- What a name stands for in a statement. -/
inductive Role where
  | table | database | label | groupByField | conditionField | dateColumn | sortField
deriving DecidableEq, Repr

def Role.name : Role → String
  | table => "table"
  | database => "database"
  | label => "alias"
  | groupByField => "group-by field"
  | conditionField => "condition field"
  | dateColumn => "date column"
  | sortField => "sort field"

/-- The identifier of a name, or the fault that names its role. -/
def identifier (role : Role) (name : String) : Except SqlFault Identifier :=
  if h : isIdentifier name = true then .ok ⟨name, h⟩
  else .error (.invalidIdentifier role.name name)

theorem identifier_of_plain {role : Role} {name : String} (h : isIdentifier name = true) :
    identifier role name = .ok ⟨name, h⟩ := by
  simp [identifier, h]

end QueryDesk.Sql
