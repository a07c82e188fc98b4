import QueryDesk.Calendar.Moment
import QueryDesk.CommandLine.Run
import QueryDesk.Task.Identity
import QueryDesk.Web.Wire
import Std.Async.DNS
import Std.Async.Select
import Std.Async.TCP
import Std.Async.Timer
import Std.Time.DateTime.PlainDateTime
import Std.Time.Zoned

/-!
# The program

The surroundings of a command on a real machine: its files, its terminal, its clock and plain
connections to the services.  Nothing is decided here.
-/

namespace QueryDesk.Terminal

open CommandLine (Exit Pace Surroundings)
open Std.Async (Async Selectable Selector)
open Std.Async.TCP (Socket.Client)

/-! ## Time and names -/

def milliseconds : IO Nat := IO.monoMsNow

def seconds : IO Float := return Float.ofNat (← IO.monoNanosNow) / 1e9

def moment : IO Moment :=
  return ⟨(← Std.Time.Timestamp.now).toNanosecondsSinceUnixEpoch.val.toNat⟩

/-- A name that nothing else has. -/
def freshName : IO String := return Identity.ofBytes (← IO.getRandomBytes 16).toList

/-- The day at the place of the machine. -/
def today : IO Date := do
  let d ← Std.Time.PlainDate.now
  return (Date.of? d.year d.month.toNat d.day.toNat).getD Date.first

def clock : Clock IO where
  now := return (← moment).text "Z"
  seconds := seconds
  stamp := return ⟨← freshName, (← moment).text "+00:00"⟩

/-! ## Connections -/

def timeLeft (deadline : Nat) : IO Std.Time.Millisecond.Offset :=
  return .ofNat (deadline - (← milliseconds))

/-- Connects to the first of several hosts that takes a connection before the deadline. -/
def connect (deadline : Nat) (port : UInt16) : List Std.Net.IPAddr → Async (Option Socket.Client)
  | [] => return none
  | host :: rest => do
    let address : Std.Net.SocketAddress := match host with
      | .v4 a => .v4 ⟨a, port⟩
      | .v6 a => .v6 ⟨a, port⟩
    let c ← Socket.Client.mk
    let attempt : Async Bool := do
      try
        c.connect address
        return true
      catch _ => return false
    let overtaken : Async Bool := do
      Std.Async.sleep (← timeLeft deadline)
      return false
    if ← Async.race attempt overtaken then return some c else connect deadline port rest

/-- All that a server sends before it closes the connection, unless the deadline passes. -/
partial def receive (deadline : Nat) (c : Socket.Client) (before : ByteArray) :
    Async (Option ByteArray) := do
  let overtaken ← Selector.sleep (← timeLeft deadline)
  Selectable.one #[
    .case (c.recvSelector 65536) fun
      | some bytes => receive deadline c (before ++ bytes)
      | none => return some before,
    .case overtaken fun _ => return none]

/-- Sends a text to an address and waits for what comes back. -/
def converse (deadline : Nat) (a : Web.Address) (text : String) : Async (Option Web.Reply) := do
  let hosts ← Std.Async.DNS.getAddrInfo a.host (toString a.port.toNat)
  match ← connect deadline a.port hosts.toList with
  | none => return some (.lost "no host takes a connection")
  | some c =>
    c.send text.toUTF8
    return (← receive deadline c .empty).map fun bytes => .ofBytes bytes.toList

/-- Sends a request and waits for the reply; nothing comes back if the deadline passes. -/
def send (deadline : Nat) (r : Web.Request) : IO (Option Web.Reply) := do
  match Web.Address.ofRequest? r with
  | none => return some (.lost "the address is not supported")
  | some a =>
    match r.wire? a with
    | none => return some (.lost "a header field cannot be sent")
    | some text =>
      try Async.block (converse deadline a text)
      catch e => return some (.lost (toString e))

def delay (pace : Pace) : Web.Pause → Nat
  | .none => 0
  | .poll => pace.pollIntervalMs
  | .backoff failures => min (100 * Nat.pow 2 failures) 10000

/-- Sends a request once its pause is over, within the time a request may take. -/
def sendPaced (pace : Pace) (r : Web.Request) : IO Web.Reply := do
  IO.sleep (UInt32.ofNat (delay pace r.pause))
  let reply ← send ((← milliseconds) + 1000 * pace.timeoutSeconds) r
  return reply.getD (.lost "the request timed out")

/-- Sees a run to its end; a run that lasts beyond the deadline is overtaken by its timeout. -/
partial def attend {Link Phase Handle : Type} (pace : Pace) (deadline : Nat)
    (s : Service Link Phase Handle) (task : String) (seconds : Nat) (jobs : Jobs Handle) :
    Run Phase → IO (Jobs Handle × Ending)
  | .ended ending => return (jobs, ending)
  | .killing request ending => do
    let (jobs, run) := s.receive task jobs (← sendPaced pace request) (.killing request ending)
    attend pace deadline s task seconds jobs run
  | .waiting request phase => do
    let left := deadline - (← milliseconds)
    IO.sleep (UInt32.ofNat (min left (delay pace request.pause)))
    let started ← milliseconds
    let limit := started + 1000 * pace.timeoutSeconds
    let reply ← if deadline ≤ started then pure none else send (min limit deadline) request
    let (jobs, run) := match reply with
      | some reply => s.receive task jobs reply (.waiting request phase)
      | none =>
        if deadline ≤ limit then s.expire task seconds jobs (.waiting request phase)
        else s.receive task jobs (.lost "the request timed out") (.waiting request phase)
    attend pace deadline s task seconds jobs run

def carrier (pace : Pace) : Carrier IO where
  send := sendPaced pace
  attend s task seconds jobs run := do
    attend pace ((← milliseconds) + 1000 * seconds) s task seconds jobs run
  freshName := freshName
  seconds := seconds

/-! ## Files and variables -/

/-- The text of a file, or why there is none. -/
def read (path : String) : IO (Except String String) := do
  try return .ok (← IO.FS.readFile path)
  catch e => return .error (toString e)

/-- Writes a file; why it was not written, if so. -/
def write (path text : String) : IO (Option String) := do
  try
    IO.FS.writeFile path text
    return none
  catch e => return some (toString e)

/-- The text of the nearest environment file, in the working directory or above it. -/
def environmentFile : Nat → String → IO (Option String)
  | 0, _ => return none
  | levels + 1, directory => do
    match ← read (directory ++ ".env") with
    | .ok text => return some text
    | .error _ => environmentFile levels (directory ++ "../")

/-- The variables that the program is given. -/
def given : IO CommandLine.Environment.Variables :=
  return CommandLine.Environment.ofBlock ((← read "/proc/self/environ").toOption.getD "")

def surroundings (given : CommandLine.Environment.Variables) : Surroundings IO where
  read := read
  write := write
  print text := do (← IO.getStdout).putStr text
  lookup name := given.lookup name
  carrier := carrier
  clock := clock
  today := today

/-- What is told of an end on the error stream. -/
def complaint : Exit → Option String
  | .done => none
  | .refused r => if r.exitCode = 0 then none else some "the arguments cannot be read"
  | .failed f => f.message?

end QueryDesk.Terminal

open QueryDesk in
def main (args : List String) : IO UInt32 := do
  let around := Terminal.surroundings (← Terminal.given)
  let exit ← CommandLine.start around (← Terminal.environmentFile 64 "./") args
  match Terminal.complaint exit with
  | some text => IO.eprintln ("Error: " ++ text)
  | none => pure ()
  return UInt32.ofNat exit.code
