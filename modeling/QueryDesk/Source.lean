import QueryDesk.Engine.Kind
import QueryDesk.Text.Case

/-!
# Data sources

The tables requests can be about, and the catalog that finds one by its keywords.  A request is
matched against the entity the model named and against its own text, both in lower case; the
first entry that matches wins, and a fallback stands in for none.
-/

namespace QueryDesk

/-- A table that a query reads. -/
structure SourceRef where
  name : String
  engine : EngineKind
  table : String
  database : Option String
  path : Option String
  dateColumn : String
deriving DecidableEq, Repr, Inhabited

namespace SourceRef

def toJson (r : SourceRef) : Json :=
  .obj [("name", .str r.name), ("backend", r.engine.toJson), ("table", .str r.table),
    ("database", .ofOption .str r.database), ("path", .ofOption .str r.path),
    ("date_column", .str r.dateColumn)]

def ofJson? (j : Json) : Option SourceRef := do
  let s ← j.slots? ["name", "backend", "table", "database", "path", "date_column"]
  return {
    name := ← (Json.slot s 0).required Json.asString?
    engine := ← (Json.slot s 1).required EngineKind.ofJson?
    table := ← (Json.slot s 2).required Json.asString?
    database := ← (Json.slot s 3).optional Json.asString?
    path := ← (Json.slot s 4).optional Json.asString?
    dateColumn := ← (Json.slot s 5).required Json.asString? }

end SourceRef

/-- The date column of a source that names none. -/
def defaultDateColumn : String := "date"

/-- A table in the catalog with the words that point to it. -/
structure SourceEntry where
  name : String
  keywords : List String
  engine : EngineKind
  table : String
  database : Option String
  path : Option String
  dateColumn : String
deriving DecidableEq, Repr, Inhabited

namespace SourceEntry

def standard (name : String) (keywords : List String) (table : String) : SourceEntry :=
  ⟨name, keywords, .hive, table, some "default", none, defaultDateColumn⟩

/-- Whether a keyword that is not empty occurs, in lower case, in the text. -/
def isNamedIn (e : SourceEntry) (text : String) : Bool :=
  e.keywords.any fun k => !k.isEmpty && Text.contains text (Text.lower k)

def toRef (e : SourceEntry) : SourceRef :=
  ⟨e.name, e.engine, e.table, e.database, e.path, e.dateColumn⟩

def ofJson? (j : Json) : Option SourceEntry := do
  let s ← j.slots? ["name", "keywords", "backend", "table", "database", "path", "date_column"]
  return {
    name := ← (Json.slot s 0).required Json.asString?
    keywords := ← (Json.slot s 1).required (Json.list? Json.asString?)
    engine := ← (Json.slot s 2).withDefault .hive EngineKind.ofJson?
    table := ← (Json.slot s 3).required Json.asString?
    database := ← (Json.slot s 4).optionalDefault Json.asString?
    path := ← (Json.slot s 5).optionalDefault Json.asString?
    dateColumn := ← (Json.slot s 6).withDefault defaultDateColumn Json.asString? }

def toJson (e : SourceEntry) : Json :=
  .obj [("name", .str e.name), ("keywords", .ofStrings e.keywords),
    ("backend", e.engine.toJson), ("table", .str e.table),
    ("database", .ofOption .str e.database), ("path", .ofOption .str e.path),
    ("date_column", .str e.dateColumn)]

end SourceEntry

/-- The tables known, in order of preference, and the one used when none matches. -/
structure Catalog where
  entries : List SourceEntry
  fallback : SourceEntry
deriving DecidableEq, Repr, Inhabited

namespace Catalog

def users : SourceEntry :=
  .standard "users" ["user", "customer", "用户"] "user_info"

/-- The catalog used when none is configured. -/
def standard : Catalog where
  entries := [users,
    .standard "orders" ["order", "订单"] "order_info",
    .standard "products" ["product", "商品"] "product_info",
    .standard "logs" ["log", "日志"] "user_logs"]
  fallback := users

def resolveEntry (c : Catalog) (entity : Option String) (text : String) : SourceEntry :=
  let entity := Text.lower (entity.getD "")
  let text := Text.lower text
  (c.entries.find? fun e => e.isNamedIn entity || e.isNamedIn text).getD c.fallback

def resolve (c : Catalog) (entity : Option String) (text : String) : SourceRef :=
  (c.resolveEntry entity text).toRef

end Catalog

end QueryDesk
