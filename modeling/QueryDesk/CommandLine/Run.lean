import QueryDesk.Agent.Basic
import QueryDesk.CommandLine.Arguments
import QueryDesk.CommandLine.Environment
import QueryDesk.Engine.ClickHouse
import QueryDesk.Engine.Hive.Service
import QueryDesk.Engine.Presto.Service
import QueryDesk.Engine.Registry
import QueryDesk.Engine.Spark.Statement
import QueryDesk.Model.Client
import QueryDesk.Report.Export
import QueryDesk.Settings.Layers

/-!
# Commands

What each command does, in any setting that can read and write files, print, and carry
conversations.  A command fails with a fault, with a file that cannot be read, or because the
request it asked was answered with an error; an abort ends it on the spot.
-/

namespace QueryDesk.CommandLine

open Report (Envelope)

/-- Why a command fails. -/
inductive Failure where
  | fault (f : Fault)
  /-- The file of requests cannot be read. -/
  | unreadable (detail : String)
  /-- The request was answered with an error. -/
  | unanswered (error : String)
  | aborted (a : Abort)
deriving DecidableEq, Repr, Inhabited

namespace Failure

/-- What the program tells of a failure; it does not tell of an abort. -/
def message? : Failure → Option String
  | fault f => some f.message
  | unreadable detail => some ("Configuration Error: " ++ detail)
  | unanswered error => some ("Request failed: " ++ error)
  | aborted _ => none

/-- The status that the program ends with. -/
def exitCode : Failure → Nat
  | aborted _ => 101
  | fault _ | unreadable _ | unanswered _ => 1

end Failure

/-- How long requests may take and how often an engine is polled. -/
structure Pace where
  timeoutSeconds : Nat
  pollIntervalMs : Nat
deriving DecidableEq, Repr, Inhabited

/-- What is around a command. -/
structure Surroundings (m : Type → Type) where
  /-- The text of a file, or why there is none. -/
  read : String → m (Except String String)
  /-- Writes a file; why it was not written, if so. -/
  write : String → String → m (Option String)
  print : String → m Unit
  lookup : String → Option String
  carrier : Pace → Carrier m
  clock : Clock m
  today : m Date

variable {m : Type → Type} [Monad m]

/-- The text of a file that may not be there. -/
def Surroundings.readable (w : Surroundings m) (path : String) : m (Option String) := do
  return (← w.read path).toOption

/-- The settings of the file given, or of the usual files. -/
def settings (w : Surroundings m) (config : Option String) : m (Except Fault Settings) := do
  match config with
  | some path => return Settings.ofFile path (← Settings.fileAt w.readable path)
  | none =>
    let home ← match (w.lookup "HOME").filter (!·.isEmpty) with
      | some home => Settings.fileAt w.readable (home ++ "/.config/quarry/quarry.toml")
      | none => pure none
    let here ← Settings.fileAt w.readable "quarry"
    return Settings.load home here w.lookup

/-- The model to work with; a missing key comes with a hint. -/
def modelFor (w : Surroundings m) (s : Settings) (offline : Bool) : Except Fault ModelClient :=
  if offline then .ok .offline
  else match ModelClient.ofSettings s.model w.lookup with
    | .error (.config detail) =>
      .error (.config (detail ++
        "; set the key or pass --offline for rule-based analysis"))
    | r => r

/-- The lines of a file that are requests: neither blank nor comments. -/
def requestLines (text : String) : List String :=
  ((Text.lines text.toList).map Text.strip).filterMap fun line =>
    if line.isEmpty || line.head? == some '#' then none else some (String.ofList line)

/-- An answer as it is printed: rows as text, tables laid out, all else as indented JSON. -/
def shown (e : Envelope) : String :=
  match e.data? with
  | some (.csv text) => text
  | some (.table t) => t.render
  | _ => e.toJson.pretty ++ "\n"

/-- The end of a command that asked one request. -/
def verdict (e : Envelope) : Except Failure Unit :=
  match e.error? with
  | some error => .error (.unanswered error)
  | none => .ok ()

section Handlers

variable {n : Type → Type} [Monad n]

/-- Writes a successful answer to a file, in the format that its path implies. -/
def saved (write : String → String → n (Option String)) (e : Envelope) (path : String) :
    n (Except Failure Unit) := do
  match ← e.save write path none with
  | .error f => return .error (.fault (.exporting f))
  | .ok () => return .ok ()

def runQuery (a : Agent n) (print : String → n Unit)
    (write : String → String → n (Option String)) (text : String) (format : Option Format)
    (output : Option String) (page : Option UInt64) (pageSize : UInt64) :
    n (Except Failure Unit) := do
  match ← a.connect with
  | (.error f, _) => return .error (.fault f)
  | (.ok (), a) =>
    let options := { a.defaults with page := page, pageSize := pageSize }
    match ← a.query text format options with
    | .error x => return .error (.aborted x)
    | .ok e =>
      let _ ← a.disconnect
      print (shown e)
      match output with
      | some path =>
        if e.isSuccess then
          match ← saved write e path with
          | .error f => return .error f
          | .ok () => return verdict e
        else return verdict e
      | none => return verdict e

def runPreview (a : Agent n) (print : String → n Unit) (text : String) (size : UInt64) :
    n (Except Failure Unit) := do
  match ← a.connect with
  | (.error f, _) => return .error (.fault f)
  | (.ok (), a) =>
    match ← a.preview text size with
    | .error x => return .error (.aborted x)
    | .ok e =>
      let _ ← a.disconnect
      print (shown e)
      return verdict e

/-- Estimates a request; an engine that cannot be reached only costs the number of rows. -/
def runEstimate (a : Agent n) (print : String → n Unit) (text : String) :
    n (Except Failure Unit) := do
  let (_, a) ← a.connect
  match ← a.estimate text with
  | .error (.abort x) => return .error (.aborted x)
  | .error (.fault f) =>
    let _ ← a.disconnect
    return .error (.fault f)
  | .ok r =>
    let _ ← a.disconnect
    print (r.toJson.pretty ++ "\n")
    return .ok ()

def runBatch (a : Agent n) (print : String → n Unit) (read : String → n (Except String String))
    (file : String) (format : Option Format) : n (Except Failure Unit) := do
  match ← read file with
  | .error detail => return .error (.unreadable ("Cannot read " ++ file ++ ": " ++ detail))
  | .ok text =>
    match ← a.connect with
    | (.error f, _) => return .error (.fault f)
    | (.ok (), a) =>
      match ← a.batch (requestLines text) format with
      | .error x => return .error (.aborted x)
      | .ok answers =>
        let _ ← a.disconnect
        print ((Json.arr (answers.map Envelope.toJson)).pretty ++ "\n")
        return .ok ()

/-- Lists the engines; the one in use is marked. -/
def runEngines (a : Agent n) (print : String → n Unit) : n (Except Failure Unit) := do
  let lines := a.supported.map fun kind =>
    (if kind = a.kind then "* " else "  ") ++ kind.name ++ " (" ++ kind.dialect.name ++ ")\n"
  print ("".intercalate lines)
  return .ok ()

def runStatus (a : Agent n) (print : String → n Unit) : n (Except Failure Unit) := do
  let (_, a) ← a.connect
  let s ← a.status
  let _ ← a.disconnect
  print (s.toJson.pretty ++ "\n")
  return .ok ()

def runCommand (a : Agent n) (print : String → n Unit)
    (read : String → n (Except String String)) (write : String → String → n (Option String)) :
    Command → n (Except Failure Unit)
  | .query text format output page size => runQuery a print write text format output page size
  | .preview text size => runPreview a print text size
  | .estimate text => runEstimate a print text
  | .batch file format => runBatch a print read file format
  | .engines => runEngines a print
  | .status => runStatus a print

end Handlers

/-- The number of seconds a single request to an engine may take. -/
def requestTimeout : Nat := 30

def agentOver {Link Phase Handle : Type} (w : Surroundings m) (s : Settings)
    (client : ModelClient) (today : Date) (service : Service Link Phase Handle) :
    Agent (StateT (Desk Link Handle) m) :=
  let generator : Sql.Generator := ⟨s.pipeline.sampleSize, today⟩
  let poll := (s.engine service.kind).pollIntervalMs.toNat
  let toModel := w.carrier ⟨s.model.timeoutSeconds.toNat, 0⟩
  { backend := service.backend (w.carrier ⟨requestTimeout, poll⟩)
    ask := fun r => StateT.lift ((client.invoke r).perform toModel.send)
    clock := ⟨StateT.lift w.clock.now, StateT.lift w.clock.seconds, StateT.lift w.clock.stamp⟩
    compiler := ⟨s.catalog, ⟨s.model.temperature, s.model.maxTokens⟩, today⟩
    tasks := .ofSettings s generator
    defaultFormat := s.pipeline.format
    defaults := .ofSettings s.pipeline
    supported := Registry.standard.supported
    connected := false }

/-- Carries out a command on a service. -/
def serve {Link Phase Handle : Type} (w : Surroundings m) (s : Settings) (client : ModelClient)
    (today : Date) (command : Command) (service : Service Link Phase Handle) :
    m (Except Failure Unit) := do
  let act := runCommand (agentOver w s client today service)
    (fun text => StateT.lift (w.print text))
    (fun path => StateT.lift (w.read path)) (fun path text => StateT.lift (w.write path text))
    command
  let (result, _) ← act.run service.desk
  return result

/-- Whether a command never asks the model. -/
def Command.needsNoModel : Command → Bool
  | .engines | .status => true
  | _ => false

def run (w : Surroundings m) (i : Invocation) : m (Except Failure Unit) := do
  match ← settings w i.config with
  | .error f => return .error (.fault f)
  | .ok s =>
    match modelFor w s (i.offline || i.command.needsNoModel) with
    | .error f => return .error (.fault f)
    | .ok client =>
      match Registry.standard.ofKind (i.engine.getD s.pipeline.engine) with
      | .error f => return .error (.fault f)
      | .ok kind =>
        let today ← w.today
        let e := s.engine kind
        match kind with
        | .spark => serve w s client today i.command (Spark.service e)
        | .hive => serve w s client today i.command (Hive.service e)
        | .clickhouse => serve w s client today i.command (ClickHouse.service e)
        | .presto => serve w s client today i.command (Presto.service e)

/-- How the program ends. -/
inductive Exit where
  | done
  | refused (r : Refusal)
  | failed (f : Failure)
deriving DecidableEq, Repr, Inhabited

namespace Exit

def code : Exit → Nat
  | done => 0
  | refused r => r.exitCode
  | failed f => f.exitCode

def failure? : Exit → Option Failure
  | failed f => some f
  | done | refused _ => none

end Exit

/-- The program: the variables of an environment file come below those around, then the arguments
are read and the command is carried out. -/
def start (w : Surroundings m) (environmentFile : Option String) (args : List String) :
    m Exit := do
  let fromFile := Environment.ofText w.lookup (environmentFile.getD "")
  match parse args with
  | .error r =>
    w.print r.text
    return .refused r
  | .ok i =>
    match ← run { w with lookup := Environment.withFile w.lookup fromFile } i with
    | .error f => return .failed f
    | .ok () => return .done

end QueryDesk.CommandLine
