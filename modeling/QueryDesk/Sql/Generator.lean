import QueryDesk.Sql.Check
import QueryDesk.Sql.Statement

/-!
# Generating statements

A query becomes three statements over the same table and filter: the answer, the number of rows
and a sample.  Faults are reported in the order in which the parts of a statement are made:
table, database, aliases, grouping fields, conditions, window, sort field; last, the finished
texts are checked.
-/

namespace QueryDesk

/-- The three statements made for one request. -/
structure SqlBundle where
  sql : String
  countSql : String
  sampleSql : String
  dialect : Dialect
  warnings : List String
deriving DecidableEq, Repr, Inhabited

namespace SqlBundle

def toJson (b : SqlBundle) : Json :=
  .obj [("sql", .str b.sql), ("count_sql", .str b.countSql), ("sample_sql", .str b.sampleSql),
    ("dialect", b.dialect.toJson), ("warnings", .ofStrings b.warnings)]

def ofJson? (j : Json) : Option SqlBundle := do
  let s ← j.slots? ["sql", "count_sql", "sample_sql", "dialect", "warnings"]
  return {
    sql := ← (Json.slot s 0).required Json.asString?
    countSql := ← (Json.slot s 1).required Json.asString?
    sampleSql := ← (Json.slot s 2).required Json.asString?
    dialect := ← (Json.slot s 3).required Dialect.ofJson?
    warnings := ← (Json.slot s 4).required (Json.list? Json.asString?) }

end SqlBundle

namespace Sql

/-- What statements are generated with. -/
structure Generator where
  /-- The rows of a sample. -/
  sampleSize : UInt64
  /-- The day that relative windows end on.  It is given, as the day of a request is. -/
  today : Date

/-- The rows of a sample when none are asked for. -/
def defaultSampleSize : UInt64 := 5

/-- The three statements of a query as data. -/
structure Statements where
  main : Statement
  count : Statement
  sample : Statement

namespace Generator

/-- The table of a source in a dialect. -/
def table (source : SourceRef) (dialect : Dialect) : Except SqlFault Table := do
  let name ← identifier .table source.table
  match source.database with
  | some database =>
    if dialect.qualifiesTables then return ⟨some (← identifier .database database), name⟩
    else return ⟨none, name⟩
  | none => return ⟨none, name⟩

/-- The columns and grouping fields of an aggregation: the aggregates, then the grouping fields
that are not among their aliases. -/
def grouping (a : Aggregation) : Except SqlFault (List Column × List Identifier) := do
  let aggregates ← a.aggregates.mapM fun x => do
    return Column.aggregate x.function (← identifier .label x.label)
  let fields ← a.groupBy.mapM (identifier .groupByField)
  let plain := fields.filter fun f => !a.aggregates.any (·.label == f.name)
  return (aggregates ++ plain.map .field, fields)

/-- The columns and grouping fields of a query. -/
def columns (q : Query) : Except SqlFault (List Column × List Identifier) :=
  match q.aggregation with
  | some a => grouping a
  | none => .ok ([], [])

def filter (g : Generator) (q : Query) : Except SqlFault Filter := do
  let conditions ← q.conditions.mapM fun c => do return (c.join, ← atom c)
  match q.window with
  | some w =>
    let column ← identifier .dateColumn q.source.dateColumn
    return ⟨conditions, ← windowAtoms column g.today w⟩
  | none => return ⟨conditions, []⟩

def order (q : Query) : Except SqlFault (Option (Identifier × SortDirection)) :=
  match q.output.sortBy with
  | some field => do return some (← identifier .sortField field, q.output.direction)
  | none => .ok none

def statements (g : Generator) (q : Query) (dialect : Dialect) : Except SqlFault Statements := do
  let source ← table q.source dialect
  let (columns, fields) ← columns q
  let filter ← g.filter q
  let order ← order q
  return {
    main := ⟨.columns columns, source, filter, fields, order, q.output.limit⟩
    count := ⟨.rowCount, source, filter, [], none, none⟩
    sample := ⟨.columns columns, source, filter, fields, none, some g.sampleSize⟩ }

/-- The defects of the three texts, each labelled with its statement. -/
def defects (main count sample : String) : List String :=
  [("main", main), ("count", count), ("sample", sample)].flatMap fun (label, text) =>
    (check text).defects.map fun d => label ++ ": " ++ d.message

/-- The warnings about the three texts, each once. -/
def warnings (main count sample : String) : List String :=
  [main, count, sample].foldl (fun found text =>
    found ++ (check text).warnings.filter (!found.contains ·)) []

/-- Generates the statements of a query in a dialect. -/
def generate (g : Generator) (q : Query) (dialect : Dialect) : Except SqlFault SqlBundle := do
  let s ← g.statements q dialect
  let (main, count, sample) := (s.main.sql, s.count.sql, s.sample.sql)
  match defects main count sample with
  | [] => return ⟨main, count, sample, dialect, warnings main count sample⟩
  | found => throw (.malformed found)

/-- The dialect of a name between blanks, in any ASCII case; Hive for an unknown name. -/
def resolveDialect (name : String) : Dialect :=
  (Dialect.ofAnyCase? (Text.trimmed name)).getD .hive

/-- Generates the statements of a query in a dialect given by name.  A name that is not the
dialect's own, in lower case and without outer blanks, is reported by a warning. -/
def generateNamed (g : Generator) (q : Query) (name : String) : Except SqlFault SqlBundle := do
  let resolved := resolveDialect name
  let bundle ← g.generate q resolved
  if resolved.name == Text.lower (Text.trimmed name) then return bundle
  else return { bundle with
    warnings := ("unsupported dialect '" ++ name ++ "', generated hive SQL") :: bundle.warnings }

end Generator

end Sql

end QueryDesk
