import QueryDesk.Fault
import QueryDesk.Json.Parser
import QueryDesk.Settings.Basic
import QueryDesk.Settings.Coercion
import QueryDesk.Text.Path
import QueryDesk.Toml.Parser

/-!
# Layers of settings

The configuration is laid together from files: tables are merged key by key, everything else is
replaced.  A key at the top of a file may itself be a dotted path into the tables below.
-/

namespace QueryDesk

/-- The form that a settings file is written in. -/
inductive SettingsForm where
  | toml | json
deriving DecidableEq, Repr, Inhabited

namespace SettingsForm

/-- The extension of files in a form. -/
def extension : SettingsForm → String
  | toml => "toml"
  | json => "json"

def all : List SettingsForm := [toml, json]

/-- The form that a path's extension names. -/
def ofPath? (path : String) : Option SettingsForm :=
  (Text.pathExtension? path).bind fun ext => all.find? (·.extension == ext)

end SettingsForm

namespace Layer

/-- Numbers beyond 64 signed bits as doubles. -/
def narrowInt (n : Int) : Json :=
  if Decimal.isSigned 64 n then .int n else .float (Float.ofInt n)

mutual

/-- A value with its large whole numbers as doubles. -/
def narrow : Json → Json
  | .int n => narrowInt n
  | .arr items => .arr (narrowItems items)
  | .obj ms => .obj (narrowMembers ms)
  | v => v

/-- Items with their large whole numbers as doubles. -/
def narrowItems : List Json → List Json
  | [] => []
  | v :: rest => narrow v :: narrowItems rest

/-- Members with their large whole numbers as doubles. -/
def narrowMembers : List (String × Json) → List (String × Json)
  | [] => []
  | (k, v) :: rest => (k, narrow v) :: narrowMembers rest

end

def parse? (text : String) : SettingsForm → Option Json.Members
  | .toml => Toml.parse text
  | .json => (Json.parse text).bind fun v => (narrow v).asObject?

/-- The members of a table; anything else counts as an empty one. -/
def tableOf (v : Option Json) : Json.Members := (v.bind Json.asObject?).getD []

mutual

def lay (key : String) : Json → Json.Members → Json.Members
  | .obj incoming, ms =>
    Json.Members.put key (.obj (layAll incoming (tableOf (Json.Members.get? key ms)))) ms
  | .null, ms => Json.Members.put key .null ms
  | .bool b, ms => Json.Members.put key (.bool b) ms
  | .int n, ms => Json.Members.put key (.int n) ms
  | .float x, ms => Json.Members.put key (.float x) ms
  | .str s, ms => Json.Members.put key (.str s) ms
  | .arr items, ms => Json.Members.put key (.arr items) ms

def layAll : List (String × Json) → Json.Members → Json.Members
  | [], ms => ms
  | (k, v) :: rest, ms => layAll rest (lay k v ms)

end

/-- The tables below a path with a value laid under their last key. -/
def nested (v : Json) : List String → Json
  | [] => v
  | key :: path => .obj [(key, nested v path)]

/-- The path that a key at the top of a file stands for. -/
def pathOf (key : String) : String × List String :=
  match Text.fields '.' key.toList with
  | first :: rest =>
    if (first :: rest).all fun p => !p.isEmpty && p.all Toml.isKeyChar then
      (String.ofList first, rest.map String.ofList)
    else (key, [])
  | [] => (key, [])

/-- Lays a file's settings over those below. -/
def laidOver (below above : Json.Members) : Json.Members :=
  above.foldl (fun ms (key, v) =>
    let (first, path) := pathOf key
    lay first (nested v path) ms) below

end Layer

namespace Settings

/-- The files that a path may stand for: the one at the path itself, whose extension names its
form, or those with the extension of a form added. -/
def pathsOf (path : String) (isThere : Bool) : List (SettingsForm × String) :=
  if isThere then ((SettingsForm.ofPath? path).map fun form => (form, path)).toList
  else SettingsForm.all.map fun form => (form, path ++ "." ++ form.extension)

def firstFile {m : Type → Type} [Monad m] (read : String → m (Option String)) :
    List (SettingsForm × String) → m (Option (SettingsForm × String))
  | [] => return none
  | (form, path) :: rest => do
    match ← read path with
    | some text => return some (form, text)
    | none => firstFile read rest

/-- The form and the text of the file that a path stands for. -/
def fileAt {m : Type → Type} [Monad m] (read : String → m (Option String)) (path : String) :
    m (Option (SettingsForm × String)) := do
  let isThere := (← read path).isSome
  firstFile read (pathsOf path isThere)

def modelShape : Shape :=
  .record [("base_url", .text), ("model", .text), ("api_key_env", .text),
    ("temperature", .number), ("max_tokens", .word), ("timeout_secs", .word),
    ("max_retries", .word)]

def pipelineShape : Shape :=
  .record [("default_backend", .choice), ("default_format", .choice), ("sample_size", .word),
    ("priority", .word), ("timeout_secs", .word), ("default_source", .text)]

def engineShape : Shape :=
  .record [("url", .text), ("username", .text), ("password", .text), ("database", .text),
    ("catalog", .text), ("schema", .text), ("queue", .text), ("status_dir", .text),
    ("webhdfs_url", .text), ("poll_interval_ms", .word)]

def sourceShape : Shape :=
  .record [("name", .text), ("keywords", .list .text), ("backend", .choice), ("table", .text),
    ("database", .text), ("path", .text), ("date_column", .text)]

def shape : Shape :=
  .record [("nlu", modelShape), ("pipeline", pipelineShape), ("backends", .table engineShape),
    ("sources", .list sourceShape)]

def ofLayers (layers : List Json.Members) : Except Fault Settings :=
  match (shape.conform (.obj (layers.foldl Layer.laidOver []))).bind ofJson? with
  | some s => .ok s
  | none => .error (.config "Failed to parse configuration: unexpected value")

/-- The settings that lie below every file. -/
def bundled : Settings where
  model := .default
  pipeline := .default
  engines := EngineKind.all.map fun kind =>
    let e := EngineSettings.defaultFor kind
    (kind.name, if kind = .hive then { e with pollIntervalMs := 1000 } else e)
  sources := Catalog.standard.entries

def bundledLayer : Json.Members := (bundled.toJson.asObject?).getD []

/-- What a file that may be left out adds: its settings, or nothing; malformed settings are a
fault. -/
def optionalLayer (file : Option (SettingsForm × String)) : Except Fault (List Json.Members) :=
  match file with
  | none => .ok []
  | some (form, text) =>
    match Layer.parse? text form with
    | some ms => .ok [ms]
    | none => .error (.config "Failed to build configuration: malformed file")

/-- The settings of the user's file and the local one, over the bundled ones, with the model
that the environment names. -/
def load (home here : Option (SettingsForm × String)) (lookup : String → Option String) :
    Except Fault Settings := do
  let user ← optionalLayer home
  let nearby ← optionalLayer here
  let s ← ofLayers (bundledLayer :: user ++ nearby)
  return s.withEnvironment lookup

/-- The settings of a single file, over the defaults. -/
def ofFile (path : String) (file : Option (SettingsForm × String)) : Except Fault Settings :=
  match file.bind fun (form, text) => Layer.parse? text form with
  | some ms => ofLayers [ms]
  | none => .error (.config ("Failed to read configuration from " ++ path ++
      ": not a configuration file"))

end Settings

end QueryDesk
