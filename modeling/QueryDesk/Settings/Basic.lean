import QueryDesk.Query.Codec
import QueryDesk.Decimal.Read

/-!
# Settings

What the program is configured with: the language model, the pipeline, the engines and the
tables.  Every field has a default, so any part may be left out.
-/

namespace QueryDesk

open Json (slot)

/-- The language-model endpoint. -/
structure ModelSettings where
  baseUrl : String
  model : String
  apiKeyVariable : String
  temperature : Float32
  maxTokens : UInt32
  timeoutSeconds : UInt64
  maxRetries : UInt32
deriving Repr, Inhabited

namespace ModelSettings

/-- The endpoint used when none is configured. -/
def default : ModelSettings where
  baseUrl := "https://api.siliconflow.cn/v1"
  model := "deepseek-ai/DeepSeek-V3"
  apiKeyVariable := "SILICONFLOW_API_KEY"
  temperature := 0.7
  maxTokens := 4000
  timeoutSeconds := 60
  maxRetries := 3

def toJson (m : ModelSettings) : Json :=
  .obj [("base_url", .str m.baseUrl), ("model", .str m.model),
    ("api_key_env", .str m.apiKeyVariable), ("temperature", .ofFloat32 m.temperature),
    ("max_tokens", .ofNat m.maxTokens.toNat), ("timeout_secs", .ofNat m.timeoutSeconds.toNat),
    ("max_retries", .ofNat m.maxRetries.toNat)]

/-- Reads the JSON form over the defaults. -/
def ofJson? (j : Json) : Option ModelSettings := do
  let s ← j.slots? ["base_url", "model", "api_key_env", "temperature", "max_tokens",
    "timeout_secs", "max_retries"]
  return {
    baseUrl := ← (slot s 0).withDefault default.baseUrl Json.asString?
    model := ← (slot s 1).withDefault default.model Json.asString?
    apiKeyVariable := ← (slot s 2).withDefault default.apiKeyVariable Json.asString?
    temperature := ← (slot s 3).withDefault default.temperature Json.asFloat32?
    maxTokens := ← (slot s 4).withDefault default.maxTokens Json.uint32?
    timeoutSeconds := ← (slot s 5).withDefault default.timeoutSeconds Json.asWord?
    maxRetries := ← (slot s 6).withDefault default.maxRetries Json.uint32? }

end ModelSettings

/-- The defaults of the pipeline. -/
structure PipelineSettings where
  engine : EngineKind
  format : Format
  sampleSize : UInt64
  priority : UInt8
  timeoutSeconds : UInt64
  source : String
deriving Repr, Inhabited

namespace PipelineSettings

/-- The pipeline used when none is configured. -/
def default : PipelineSettings := ⟨.spark, .json, 5, 1, 3600, "users"⟩

def toJson (p : PipelineSettings) : Json :=
  .obj [("default_backend", p.engine.toJson), ("default_format", p.format.toJson),
    ("sample_size", .ofNat p.sampleSize.toNat), ("priority", .ofNat p.priority.toNat),
    ("timeout_secs", .ofNat p.timeoutSeconds.toNat), ("default_source", .str p.source)]

/-- Reads the JSON form over the defaults. -/
def ofJson? (j : Json) : Option PipelineSettings := do
  let s ← j.slots? ["default_backend", "default_format", "sample_size", "priority",
    "timeout_secs", "default_source"]
  return {
    engine := ← (slot s 0).withDefault default.engine EngineKind.ofJson?
    format := ← (slot s 1).withDefault default.format Format.ofJson?
    sampleSize := ← (slot s 2).withDefault default.sampleSize Json.asWord?
    priority := ← (slot s 3).withDefault default.priority Json.uint8?
    timeoutSeconds := ← (slot s 4).withDefault default.timeoutSeconds Json.asWord?
    source := ← (slot s 5).withDefault default.source Json.asString? }

end PipelineSettings

/-- How one engine is reached. -/
structure EngineSettings where
  url : String
  username : Option String
  password : Option String
  database : Option String
  catalog : Option String
  schema : Option String
  queue : Option String
  statusDir : Option String
  webhdfsUrl : Option String
  pollIntervalMs : UInt64
deriving DecidableEq, Repr, Inhabited

namespace EngineSettings

def blank : EngineSettings :=
  ⟨"", none, none, none, none, none, none, none, none, 500⟩

/-- The local defaults of an engine. -/
def defaultFor : EngineKind → EngineSettings
  | .spark => { blank with url := "http://localhost:8998", queue := some "default" }
  | .hive => { blank with
      url := "http://localhost:50111", username := some "hive", database := some "default",
      statusDir := some "/tmp/quarry", webhdfsUrl := some "http://localhost:9870" }
  | .clickhouse => { blank with
      url := "http://localhost:8123", username := some "default", database := some "default" }
  | .presto => { blank with
      url := "http://localhost:8080", username := some "quarry", catalog := some "hive",
      schema := some "default" }

def toJson (e : EngineSettings) : Json :=
  .obj [("url", .str e.url), ("username", .ofOption .str e.username),
    ("password", .ofOption .str e.password), ("database", .ofOption .str e.database),
    ("catalog", .ofOption .str e.catalog), ("schema", .ofOption .str e.schema),
    ("queue", .ofOption .str e.queue), ("status_dir", .ofOption .str e.statusDir),
    ("webhdfs_url", .ofOption .str e.webhdfsUrl),
    ("poll_interval_ms", .ofNat e.pollIntervalMs.toNat)]

/-- Reads the JSON form over blank settings. -/
def ofJson? (j : Json) : Option EngineSettings := do
  let s ← j.slots? ["url", "username", "password", "database", "catalog", "schema", "queue",
    "status_dir", "webhdfs_url", "poll_interval_ms"]
  return {
    url := ← (slot s 0).withDefault "" Json.asString?
    username := ← (slot s 1).optionalDefault Json.asString?
    password := ← (slot s 2).optionalDefault Json.asString?
    database := ← (slot s 3).optionalDefault Json.asString?
    catalog := ← (slot s 4).optionalDefault Json.asString?
    schema := ← (slot s 5).optionalDefault Json.asString?
    queue := ← (slot s 6).optionalDefault Json.asString?
    statusDir := ← (slot s 7).optionalDefault Json.asString?
    webhdfsUrl := ← (slot s 8).optionalDefault Json.asString?
    pollIntervalMs := ← (slot s 9).withDefault 500 Json.asWord? }

end EngineSettings

/-- The whole configuration. -/
structure Settings where
  model : ModelSettings
  pipeline : PipelineSettings
  engines : List (String × EngineSettings)
  sources : List SourceEntry
deriving Repr, Inhabited

namespace Settings

/-- The configuration with nothing configured. -/
def default : Settings := ⟨.default, .default, [], []⟩

def toJson (s : Settings) : Json :=
  .obj [("nlu", s.model.toJson), ("pipeline", s.pipeline.toJson),
    ("backends", .obj (s.engines.map fun (k, e) => (k, e.toJson))),
    ("sources", .arr (s.sources.map SourceEntry.toJson))]

def enginesOfJson? : Json → Option (List (String × EngineSettings))
  | .obj ms => ms.mapM fun (k, v) => (EngineSettings.ofJson? v).map fun e => (k, e)
  | _ => none

/-- Reads the JSON form over the defaults. -/
def ofJson? (j : Json) : Option Settings := do
  let s ← j.slots? ["nlu", "pipeline", "backends", "sources"]
  return {
    model := ← (slot s 0).withDefault default.model ModelSettings.ofJson?
    pipeline := ← (slot s 1).withDefault default.pipeline PipelineSettings.ofJson?
    engines := ← (slot s 2).withDefault [] enginesOfJson?
    sources := ← (slot s 3).withDefault [] (Json.list? SourceEntry.ofJson?) }

/-- The settings of an engine, the local defaults when it is not configured. -/
def engine (s : Settings) (kind : EngineKind) : EngineSettings :=
  match s.engines.find? (·.1 == kind.name) with
  | some (_, e) => e
  | none => .defaultFor kind

/-- The configured catalog; its fallback is the default source, or the first table. -/
def catalog (s : Settings) : Catalog :=
  match s.sources with
  | [] => .standard
  | first :: _ => ⟨s.sources, (s.sources.find? (·.name == s.pipeline.source)).getD first⟩

/-- The settings with the endpoint and the model that the environment names. -/
def withEnvironment (s : Settings) (lookup : String → Option String) : Settings :=
  { s with model := { s.model with
      baseUrl := (lookup "SILICONFLOW_BASE_URL").getD s.model.baseUrl
      model := (lookup "SILICONFLOW_MODEL").getD s.model.model } }

end Settings

end QueryDesk
