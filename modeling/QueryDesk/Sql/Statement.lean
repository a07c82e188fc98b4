import QueryDesk.Sql.Predicate

/-!
# Statements

A SELECT statement as data, and its text.
-/

namespace QueryDesk.Sql

/-- A column of a SELECT list. -/
inductive Column where
  | aggregate (function : String) (label : Identifier)
  | field (name : Identifier)

def Column.sql : Column → String
  | aggregate function label => function ++ " as " ++ label.name
  | field name => name.name

/-- The name under which a column appears in the result. -/
def Column.outputName : Column → String
  | aggregate _ label => label.name
  | field name => name.name

/-- What a statement selects. -/
inductive Selection where
  /-- The columns, or every column of the table if there are none. -/
  | columns (cs : List Column)
  | rowCount

def Selection.sql : Selection → String
  | columns [] => "*"
  | columns cs => ", ".intercalate (cs.map Column.sql)
  | rowCount => "COUNT(*) AS total_count"

/-- A table, with its database where the dialect writes it. -/
structure Table where
  database : Option Identifier
  table : Identifier

def Table.sql (t : Table) : String :=
  match t.database with
  | some d => d.name ++ "." ++ t.table.name
  | none => t.table.name

/-- A SELECT statement. -/
structure Statement where
  selection : Selection
  source : Table
  filter : Filter
  groupBy : List Identifier
  order : Option (Identifier × SortDirection)
  limit : Option UInt64

namespace Statement

/-- The WHERE clause with a blank in front, or nothing. -/
def whereClause (s : Statement) : String :=
  match s.filter.sql? with
  | some p => " WHERE " ++ p
  | none => ""

/-- The GROUP BY clause with a blank in front, or nothing. -/
def groupByClause (s : Statement) : String :=
  match s.groupBy with
  | [] => ""
  | fields => " GROUP BY " ++ ", ".intercalate (fields.map Identifier.name)

/-- The ORDER BY clause with a blank in front, or nothing. -/
def orderClause (s : Statement) : String :=
  match s.order with
  | some (field, direction) => " ORDER BY " ++ field.name ++ " " ++ direction.sql
  | none => ""

/-- The LIMIT clause with a blank in front, or nothing. -/
def limitClause (s : Statement) : String :=
  match s.limit with
  | some n => " LIMIT " ++ String.ofList (Decimal.digitsOf n.toNat)
  | none => ""

def sql (s : Statement) : String :=
  "SELECT " ++ s.selection.sql ++ " FROM " ++ s.source.sql ++ s.whereClause ++
    s.groupByClause ++ s.orderClause ++ s.limitClause

end Statement

end QueryDesk.Sql
