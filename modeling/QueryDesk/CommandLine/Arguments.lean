import QueryDesk.Engine.Kind
import QueryDesk.Query.Basic

/-!
# Command-line arguments

What the program accepts on its command line.  Some options may stand before or after the
command's name; the one after it wins.  A value is only looked at once the next argument or the
end shows that it is complete, and everything after the command's name is settled before what
stands in front of it.
-/

namespace QueryDesk.CommandLine

/-- Why the arguments are not carried out. -/
inductive Refusal where
  /-- Help is shown for want of a command. -/
  | helpForMissing
  | help
  | version
  | missingCommand
  | missingArgument
  | unknownArgument
  | unknownCommand
  /-- A value that is none of the possible ones, or missing. -/
  | invalidValue
  | unreadableValue
  | conflict
  | surplusValue
deriving DecidableEq, Repr, Inhabited

/-- Asking for help or the version is no failure. -/
def Refusal.exitCode : Refusal → Nat
  | help | version => 0
  | _ => 2

/-- What is printed for a refusal: the version, if it is asked for. -/
def Refusal.text : Refusal → String
  | version => "quarry 0.2.0\n"
  | _ => ""

/-- What can be given on the command line. -/
inductive Param where
  | verbose | config | engine | offline | help | version
  | format | output | page | pageSize | sampleSize
  | text | file
deriving DecidableEq, Repr, Inhabited

namespace Param

/-- The long name of an option or flag. -/
def long? : Param → Option String
  | verbose => some "verbose"
  | config => some "config"
  | engine => some "engine"
  | offline => some "offline"
  | help => some "help"
  | version => some "version"
  | format => some "format"
  | output => some "output"
  | page => some "page"
  | pageSize => some "page-size"
  | sampleSize => some "sample-size"
  | text | file => none

def short? : Param → Option Char
  | verbose => some 'v'
  | help => some 'h'
  | version => some 'V'
  | _ => none

/-- Whether the parameter is an option with a value. -/
def takesValue : Param → Bool
  | verbose | offline | help | version => false
  | _ => true

/-- Why a value is refused, if it is. -/
def refuses (p : Param) (value : String) : Option Refusal :=
  match p with
  | engine => if (EngineKind.ofName? value).isSome then none else some .invalidValue
  | format => if (Format.ofName? value).isSome then none else some .invalidValue
  | config | output | file => if value.isEmpty then some .invalidValue else none
  | page | pageSize | sampleSize =>
    if (Text.word? value.toList).isSome then none else some .unreadableValue
  | verbose | offline | help | version | text => none

end Param

/-- The commands by name. -/
inductive CommandName where
  | query | preview | estimate | batch | engines | status
deriving DecidableEq, Repr, Inhabited

namespace CommandName

def name : CommandName → String
  | query => "query"
  | preview => "preview"
  | estimate => "estimate"
  | batch => "batch"
  | engines => "engines"
  | status => "status"

def all : List CommandName := [query, preview, estimate, batch, engines, status]

def ofName? (s : String) : Option CommandName := all.find? (·.name == s)

def options : CommandName → List Param
  | query => [.format, .output, .page, .pageSize]
  | preview => [.sampleSize]
  | batch => [.format]
  | estimate | engines | status => []

/-- The argument of a command that stands without a name. -/
def operand? : CommandName → Option Param
  | query | preview | estimate => some .text
  | batch => some .file
  | engines | status => none

end CommandName

/-- The options that may stand before or after the command's name. -/
def globalParams : List Param := [.verbose, .config, .engine, .offline]

/-- A place on the command line: before the command's name, or after it. -/
inductive Level where
  | top
  | inside (c : CommandName)
deriving DecidableEq, Repr

namespace Level

/-- The options and flags known in a place. -/
def params : Level → List Param
  | top => globalParams ++ [.help, .version]
  | inside c => c.options ++ globalParams ++ [.help]

def ofLong? (l : Level) (name : String) : Option Param :=
  l.params.find? fun p => p.long? == some name

def ofShort? (l : Level) (c : Char) : Option Param :=
  l.params.find? fun p => p.short? == some c

end Level

/-- An option whose value is not settled yet. -/
inductive Pending where
  | nothing
  | awaiting (p : Param)
  | holding (p : Param) (value : String)
deriving DecidableEq, Repr

/-- What is known part of the way through the arguments of a place. -/
structure Progress where
  given : List (Param × String)
  pending : Pending
  /-- Whether a double dash has been passed. -/
  trailing : Bool
  /-- Whether the argument without a name has been passed. -/
  hasOperand : Bool
deriving DecidableEq, Repr

namespace Progress

/-- Nothing known yet. -/
def start : Progress := ⟨[], .nothing, false, false⟩

def value? (s : Progress) (p : Param) : Option String := s.given.lookup p

def record (s : Progress) (p : Param) (value : String) : Except Refusal Progress :=
  if (s.value? p).isSome then .error .conflict
  else match p.refuses value with
    | some r => .error r
    | none => .ok { s with given := s.given ++ [(p, value)], pending := .nothing }

def settle (s : Progress) : Except Refusal Progress :=
  match s.pending with
  | .nothing => .ok s
  | .awaiting _ => .error .invalidValue
  | .holding p value => record { s with pending := .nothing } p value

def flag (s : Progress) (p : Param) : Except Refusal Progress := do
  let s ← s.settle
  match p with
  | .help => throw .help
  | .version => throw .version
  | p => s.record p "true"

/-- A parameter by its long name, with the value after an equals sign if there is one. -/
def long (s : Progress) (l : Level) (name : String) (value : Option String) :
    Except Refusal Progress :=
  match l.ofLong? name, value with
  | none, _ => .error .unknownArgument
  | some p, some v =>
    if p.takesValue then do (← s.settle).record p v else .error .surplusValue
  | some p, none =>
    if p.takesValue then do return { (← s.settle) with pending := .awaiting p } else s.flag p

def letters (s : Progress) (l : Level) : List Char → Except Refusal Progress
  | [] => .ok s
  | c :: rest =>
    match l.ofShort? c with
    | none => .error .unknownArgument
    | some p => do letters (← s.flag p) l rest

def operand (s : Progress) (l : Level) (arg : String) : Except Refusal Progress :=
  match l with
  | .top =>
    if s.trailing && (arg == "help" || (CommandName.ofName? arg).isSome) then
      .error .unknownArgument
    else .error .unknownCommand
  | .inside c =>
    match c.operand?, s.hasOperand with
    | some p, false => do
      return { (← s.settle) with pending := .holding p arg, hasOperand := true }
    | _, _ => .error .unknownArgument

/-- Whether the next argument may be the value of an option. -/
def isAwaiting (s : Progress) : Bool :=
  match s.pending with
  | .awaiting _ => true
  | _ => false

end Progress

/-- The name and the value of a long option. -/
def splitLong (name : List Char) : String × Option String :=
  match name.dropWhile (· != '=') with
  | [] => (String.ofList name, none)
  | _ :: value => (String.ofList (name.takeWhile (· != '=')), some (String.ofList value))

def Progress.take (s : Progress) (l : Level) (arg : String) : Except Refusal Progress :=
  if s.trailing then s.operand l arg
  else match arg.toList with
    | ['-', '-'] => .ok { s with trailing := true }
    | '-' :: '-' :: name => let (name, value) := splitLong name; s.long l name value
    | '-' :: c :: rest => s.letters l (c :: rest)
    | _ =>
      match s.pending with
      | .awaiting p => .ok { s with pending := .holding p arg }
      | _ => s.operand l arg

/-- Help on a command by its names. -/
def helpOn : List String → Refusal
  | [] => .help
  | [name] => if name = "help" ∨ (CommandName.ofName? name).isSome then .help else .unknownCommand
  | _ => .unknownCommand

def scanInside (c : CommandName) : Progress → List String → Except Refusal Progress
  | s, [] => do
    let s ← s.settle
    match c.operand? with
    | some p => if (s.value? p).isSome then return s else throw .missingArgument
    | none => return s
  | s, arg :: rest => do scanInside c (← s.take (.inside c) arg) rest

/-- The arguments before the command's name, and those of the command. -/
def scan : Progress → List String → Except Refusal (Progress × CommandName × Progress)
  | s, [] => do
    let s ← s.settle
    throw (if s.given.isEmpty then .helpForMissing else .missingCommand)
  | s, arg :: rest =>
    if s.trailing || s.isAwaiting then do scan (← s.take .top arg) rest
    else match CommandName.ofName? arg with
      | some c => do
        let inner ← scanInside c .start rest
        return (← s.settle, c, inner)
      | none => if arg = "help" then .error (helpOn rest) else do scan (← s.take .top arg) rest

/-- A command with its arguments. -/
inductive Command where
  | query (text : String) (format : Option Format) (output : Option String)
    (page : Option UInt64) (pageSize : UInt64)
  | preview (text : String) (sampleSize : UInt64)
  | estimate (text : String)
  | batch (file : String) (format : Option Format)
  | engines
  | status
deriving DecidableEq, Repr, Inhabited

/-- A whole command line. -/
structure Invocation where
  command : Command
  verbose : Bool
  config : Option String
  engine : Option EngineKind
  offline : Bool
deriving DecidableEq, Repr, Inhabited

def Progress.number? (s : Progress) (p : Param) : Option UInt64 :=
  ((s.value? p).bind fun v => Text.word? v.toList).map UInt64.ofNat

def Progress.format? (s : Progress) : Option Format := (s.value? .format).bind Format.ofName?

/-- The command that settled arguments stand for. -/
def Progress.command (s : Progress) (c : CommandName) : Command :=
  let text := (s.value? .text).getD ""
  match c with
  | .query => .query text s.format? (s.value? .output) (s.number? .page)
      ((s.number? .pageSize).getD 100)
  | .preview => .preview text ((s.number? .sampleSize).getD 10)
  | .estimate => .estimate text
  | .batch => .batch ((s.value? .file).getD "") s.format?
  | .engines => .engines
  | .status => .status

/-- Reads the arguments after the program's name. -/
def parse (args : List String) : Except Refusal Invocation := do
  let (outer, c, inner) ← scan .start args
  let global (p : Param) : Option String := (inner.value? p).orElse fun _ => outer.value? p
  return {
    command := inner.command c
    verbose := (global .verbose).isSome
    config := global .config
    engine := (global .engine).bind EngineKind.ofName?
    offline := (global .offline).isSome }

end QueryDesk.CommandLine
