import QueryDesk.Settings.Basic

/-!
# Query options

How a single request is run: the priority and timeout of its task, and the page of rows wanted.
-/

namespace QueryDesk

open Json (slot)

/-- The options of a request. -/
structure QueryOptions where
  priority : UInt8
  timeoutSeconds : UInt64
  /-- The page of rows wanted, from 1 on; all rows when absent. -/
  page : Option UInt64
  pageSize : UInt64
deriving DecidableEq, Repr, Inhabited

namespace QueryOptions

/-- The options used when none are given. -/
def default : QueryOptions := ⟨1, 3600, none, 100⟩

/-- The options with the configured priority and timeout. -/
def ofSettings (p : PipelineSettings) : QueryOptions :=
  { default with priority := p.priority, timeoutSeconds := p.timeoutSeconds }

def toJson (o : QueryOptions) : Json :=
  .obj [("priority", .ofNat o.priority.toNat), ("timeout_secs", .ofNat o.timeoutSeconds.toNat),
    ("page", .ofOption (fun n => .ofNat n.toNat) o.page),
    ("page_size", .ofNat o.pageSize.toNat)]

def ofJson? (j : Json) : Option QueryOptions := do
  let s ← j.slots? ["priority", "timeout_secs", "page", "page_size"]
  return {
    priority := ← (slot s 0).required Json.uint8?
    timeoutSeconds := ← (slot s 1).required Json.asWord?
    page := ← (slot s 2).optional Json.asWord?
    pageSize := ← (slot s 3).required Json.asWord? }

end QueryOptions

end QueryDesk
