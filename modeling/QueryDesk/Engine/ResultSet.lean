import QueryDesk.Fault
import QueryDesk.Decimal.Read
import QueryDesk.Engine.Kind
import QueryDesk.Json.Unread
import QueryDesk.Outcome
import QueryDesk.Text.Blank

/-!
# Result sets

The columns and rows of a finished statement, how a run that ends one way or another is reported,
and the number in the first cell of a count.
-/

namespace QueryDesk

/-- Named columns and the rows under them. -/
structure ResultSet where
  columns : List String
  rows : List Row
deriving Inhabited

/-- A row of positional values under its columns; surplus values or columns are passed over. -/
def Row.zip (columns : List String) (values : List Json) : Row :=
  Json.Members.ofList (columns.zip values)

/-- The name of a column as a server describes it. -/
def readColumn? (u : Json.Unread) : Option String := do
  let s ← u.slots? ["name"]
  (Json.slot s 0).required Json.Unread.string?

/-- How a run ends. -/
inductive Ending where
  /-- The engine was not connected. -/
  | refused (kind : EngineKind)
  | finished (result : Except Fault ResultSet)
  | timedOut (seconds : Nat)

namespace Ending

def outcome (taskId : String) (elapsed : Float) : Ending → Outcome
  | refused kind => .failed (some taskId) (kind.name ++ " backend is not connected") 0.0
  | finished (.ok r) => .completed (some taskId) r.columns r.rows elapsed
  | finished (.error f) => .failed (some taskId) f.message elapsed
  | timedOut seconds =>
    .failed (some taskId) (ExecutionFault.timeout seconds).message elapsed

end Ending

/-- The number a cell holds: a number cut to a whole one, or the text of one; else zero. -/
def cellCount : Json → Nat
  | .int n => if n < Decimal.words 64 then n.toNat else 0
  | .float x => if 0.0 ≤ x then x.toUInt64.toNat else 0
  | .str s => (Text.word? (Text.strip s.toList)).getD 0
  | _ => 0

/-- The number in the first cell of an outcome, zero without one. -/
def Outcome.firstCount (o : Outcome) : Nat :=
  match o.rows with
  | [] => 0
  | row :: _ =>
    let cell := match o.columns with
      | column :: _ => Json.Members.get? column row
      | [] => row.head?.map Prod.snd
    match cell with
    | some v => cellCount v
    | none => 0

end QueryDesk
