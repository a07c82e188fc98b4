import QueryDesk.Settings.Basic

/-!
# Clusters

How the cluster of an engine is described in a task: a template, with the configured values laid
over it.  Passwords are left out.
-/

namespace QueryDesk.Cluster

/-- The description of an engine's cluster without any settings. -/
def template : EngineKind → Json.Members
  | .spark =>
    [("master", .str "yarn"), ("deploy_mode", .str "cluster"), ("queue", .str "default")]
  | .hive => [("url", .str "thrift://localhost:10000"), ("auth", .str "PLAIN")]
  | .clickhouse =>
    [("host", .str "localhost"), ("port", .int 9000), ("database", .str "default")]
  | .presto =>
    [("host", .str "localhost"), ("port", .int 8080), ("catalog", .str "hive"),
      ("schema", .str "default")]

/-- The settings that are laid over a template. -/
def overrides (s : EngineSettings) : List (String × Option String) :=
  [("endpoint", if s.url.isEmpty then none else some s.url), ("user", s.username),
    ("database", s.database), ("catalog", s.catalog), ("schema", s.schema), ("queue", s.queue)]

/-- The description of an engine's cluster with settings. -/
def describe (kind : EngineKind) (s : EngineSettings) : Json.Members :=
  (overrides s).foldl (fun ms (key, value) =>
    match value with
    | some v => Json.Members.put key (.str v) ms
    | none => ms) (template kind)

end QueryDesk.Cluster
