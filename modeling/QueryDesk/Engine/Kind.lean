import QueryDesk.Text.Search
import QueryDesk.Json.Decode

/-!
# Engines and dialects

The four query engines and the SQL dialects they speak.  Names are read without regard to the
case of ASCII letters, except in stored values, where they are exact.
-/

namespace QueryDesk

/-- A SQL dialect. -/
inductive Dialect where
  | hive | spark | clickhouse | presto
deriving DecidableEq, Repr, Inhabited

namespace Dialect

def name : Dialect → String
  | hive => "hive"
  | spark => "spark"
  | clickhouse => "clickhouse"
  | presto => "presto"

def all : List Dialect := [hive, spark, clickhouse, presto]

def ofName? (s : String) : Option Dialect :=
  all.find? (·.name == s)

/-- The dialect of a name in any ASCII case. -/
def ofAnyCase? (s : String) : Option Dialect :=
  all.find? (Text.sameIgnoringAsciiCase ·.name s)

/-- Whether tables are written with their database in front. -/
def qualifiesTables : Dialect → Bool
  | hive | spark => true
  | clickhouse | presto => false

def toJson (d : Dialect) : Json := .str d.name

def ofJson? : Json → Option Dialect := Json.choice? ofName?

end Dialect

/-- A query engine. -/
inductive EngineKind where
  | spark | hive | clickhouse | presto
deriving DecidableEq, Repr, Inhabited

namespace EngineKind

def name : EngineKind → String
  | spark => "spark"
  | hive => "hive"
  | clickhouse => "clickhouse"
  | presto => "presto"

/-- All engines, in the order they are listed to users. -/
def all : List EngineKind := [spark, hive, clickhouse, presto]

def ofName? (s : String) : Option EngineKind :=
  all.find? (·.name == s)

/-- The engine of a name in any ASCII case. -/
def ofAnyCase? (s : String) : Option EngineKind :=
  all.find? (Text.sameIgnoringAsciiCase ·.name s)

def dialect : EngineKind → Dialect
  | spark => .spark
  | hive => .hive
  | clickhouse => .clickhouse
  | presto => .presto

def toJson (k : EngineKind) : Json := .str k.name

def ofJson? : Json → Option EngineKind := Json.choice? ofName?

end EngineKind

end QueryDesk
