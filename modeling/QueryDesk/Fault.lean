import QueryDesk.Text.Search

/-!
# Faults

Everything that can go wrong, as causes.  The wording a user sees is produced in one place, by
`Fault.message`.  A fault is told; an abort is not, it breaks off whatever is under way.
-/

namespace QueryDesk

/-- What can go wrong between the program and the language model. -/
inductive ModelFault where
  | missingApiKey (hint : String)
  | request (detail : String)
  | api (status : Nat) (body : String)
  | emptyResponse
  | unparseable (detail : String)
  | disabled
deriving DecidableEq, Repr, Inhabited

namespace ModelFault

def message : ModelFault → String
  | missingApiKey hint => "Missing API key: set " ++ hint
  | request detail => "Request failed: " ++ detail
  | api status body => "API error (status " ++ toString status ++ "): " ++ body
  | emptyResponse => "Empty response from provider"
  | unparseable detail => "Unparseable response: " ++ detail
  | disabled => "NLU is disabled"

/-- Whether asking again could help. -/
def isRetryable : ModelFault → Bool
  | request _ => true
  | api status _ => status == 429 || 500 ≤ status
  | _ => false

end ModelFault

/-- Why a statement cannot be generated. -/
inductive SqlFault where
  | invalidIdentifier (role name : String)
  /-- The operand of a condition does not fit its operator. -/
  | misfit (operator field : String) (single : Bool)
  | nonFinite (number : String)
  | beforeCalendar (days : Nat)
  /-- The findings about the finished statements. -/
  | malformed (findings : List String)
deriving DecidableEq, Repr, Inhabited

namespace SqlFault

/-- The reason given for a fault of content. -/
def reason : SqlFault → String
  | invalidIdentifier _ _ => ""
  | misfit operator field single =>
    operator ++ " on '" ++ field ++
      (if single then "' needs a single value" else "' needs a matching value")
  | nonFinite number => "non-finite number " ++ number ++ " in condition"
  | beforeCalendar days =>
    "Time window of " ++ toString days ++ " days reaches before the calendar"
  | malformed findings => "; ".intercalate findings

def message : SqlFault → String
  | invalidIdentifier role name => "Invalid identifier for " ++ role ++ ": '" ++ name ++ "'"
  | fault => "Validation failed: " ++ fault.reason

end SqlFault

/-- Why an engine gave no result. -/
inductive ExecutionFault where
  | failed (detail : String)
  | timeout (seconds : Nat)
  | cancelled (detail : String)
  | unexpected (detail : String)
deriving DecidableEq, Repr, Inhabited

namespace ExecutionFault

def message : ExecutionFault → String
  | failed detail => "Query failed: " ++ detail
  | timeout seconds => "Timed out after " ++ toString seconds ++ " seconds"
  | cancelled detail => "Cancelled: " ++ detail
  | unexpected detail => "Unexpected response: " ++ detail

end ExecutionFault

/-- Why a task is refused. -/
inductive TaskFault where
  | invalidTransition (task old new : String)
  | invalidPriority (priority : Nat)
deriving DecidableEq, Repr, Inhabited

namespace TaskFault

def message : TaskFault → String
  | invalidTransition task old new =>
    "Invalid status transition for task " ++ task ++ ": " ++ old ++ " -> " ++ new
  | invalidPriority p => "Priority " ++ toString p ++ " out of range 1..=5"

end TaskFault

/-- Why a result is not exported. -/
inductive ExportFault where
  | failedResult (detail : String)
  | noData (detail : String)
  | fileWrite (detail : String)
  | serialize (detail : String)
deriving DecidableEq, Repr, Inhabited

namespace ExportFault

def message : ExportFault → String
  | failedResult detail => "Cannot export a failed result: " ++ detail
  | noData detail => "Nothing to export: " ++ detail
  | fileWrite detail => "Failed to write file: " ++ detail
  | serialize detail => "Serialization failed: " ++ detail

end ExportFault

/-- A fault of any part of the program. -/
inductive Fault where
  | http (detail : String)
  | json (detail : String)
  | config (detail : String)
  | connection (detail : String)
  | builder (target reason : String)
  | model (fault : ModelFault)
  | sql (fault : SqlFault)
  | execution (fault : ExecutionFault)
  | task (fault : TaskFault)
  | exporting (fault : ExportFault)
deriving DecidableEq, Repr, Inhabited

namespace Fault

/-- The part of the program and what went wrong there. -/
def areaAndText : Fault → String × String
  | http detail => ("HTTP", detail)
  | json detail => ("JSON", detail)
  | config detail => ("Configuration", detail)
  | connection detail => ("Connection", detail)
  | builder target reason => ("Builder", "Cannot assemble " ++ target ++ ": " ++ reason)
  | model fault => ("NLU", fault.message)
  | sql fault => ("SQL", fault.message)
  | execution fault => ("Execution", fault.message)
  | task fault => ("Task", fault.message)
  | exporting fault => ("Export", fault.message)

/-- The fault without the program's name. -/
def detail (f : Fault) : String :=
  let (area, what) := f.areaAndText
  area ++ " Error: " ++ what

def message (f : Fault) : String :=
  "Quarry Error: " ++ f.detail

end Fault

/-- What breaks work off: nothing is answered, and no fault is told. -/
inductive Abort where
  /-- The day before the first day of the calendar was asked for. -/
  | beforeCalendar
deriving DecidableEq, Repr, Inhabited

/-- What keeps work from its result. -/
inductive Halt where
  | fault (f : Fault)
  | abort (a : Abort)
deriving DecidableEq, Repr, Inhabited

end QueryDesk
