import QueryDesk.Engine.ResultSet

/-!
# Presto result pages

A statement is answered page by page.  A page may hold an error, the columns, some rows and the
address of the next page; the first columns seen are those of the result.
-/

namespace QueryDesk.Presto

open Json (Unread slot)

/-- What the server reports of a failed statement. -/
structure PageError where
  message : String
  name : Option String
deriving DecidableEq, Repr, Inhabited

/-- One page. -/
structure Page where
  id : String
  next : Option String
  columns : Option (List String)
  data : Option (List (List Json))
  error : Option PageError
deriving Inhabited

def PageError.read? (u : Unread) : Option PageError := do
  let s ← u.slots? ["message", "errorName"]
  return {
    message := ← (slot s 0).required Unread.string?
    name := ← (slot s 1).nullable Unread.string? }

def Page.read? (u : Unread) : Option Page := do
  let s ← u.slots? ["id", "nextUri", "columns", "data", "error"]
  return {
    id := ← (slot s 0).required Unread.string?
    next := ← (slot s 1).nullable Unread.string?
    columns := ← (slot s 2).nullable (Unread.list? readColumn?)
    data := ← (slot s 3).nullable (Unread.list? (Unread.whole? Json.asArray?))
    error := ← (slot s 4).nullable PageError.read? }

def PageError.fault (e : PageError) : Fault :=
  .execution (.failed (e.name.getD "QUERY_FAILED" ++ ": " ++ e.message))

/-- The result so far with the columns and rows of a page. -/
def Page.addTo (p : Page) (r : ResultSet) : ResultSet :=
  let columns := if r.columns.isEmpty then p.columns.getD [] else r.columns
  ⟨columns, r.rows ++ (p.data.getD []).map (Row.zip columns)⟩

end QueryDesk.Presto
