import QueryDesk.Outcome

/-!
# Pages

One-based pages of a list.  Sizes and page numbers are 64-bit words, so products are capped at
the largest word; a page number or size of zero counts as one.
-/

namespace QueryDesk.Report

def maxWord : Nat := Decimal.words 64 - 1

/-- A product capped at the largest word. -/
def cappedMul (a b : Nat) : Nat := min (a * b) maxWord

/-- A sum capped at the largest word. -/
def cappedAdd (a b : Nat) : Nat := min (a + b) maxWord

/-- Where a page lies in the whole. -/
structure Pagination where
  page : Nat
  pageSize : Nat
  totalCount : Nat
  totalPages : Nat
  hasNext : Bool
  hasPrev : Bool
deriving DecidableEq, Repr, Inhabited

namespace Pagination

/-- The place of a page over a number of items. -/
def of (page pageSize totalCount : Nat) : Pagination :=
  let page := max page 1
  let pageSize := max pageSize 1
  { page := page
    pageSize := pageSize
    totalCount := totalCount
    totalPages := (totalCount + pageSize - 1) / pageSize
    hasNext := cappedMul page pageSize < totalCount
    hasPrev := 1 < page }

/-- The index of the first item of a page. -/
def start (p : Pagination) : Nat :=
  min (cappedMul (p.page - 1) p.pageSize) p.totalCount

/-- The index after the last item of a page. -/
def stop (p : Pagination) : Nat :=
  min (cappedAdd p.start p.pageSize) p.totalCount

def toJson (p : Pagination) : Json :=
  .obj [("page", .ofNat p.page), ("page_size", .ofNat p.pageSize),
    ("total_count", .ofNat p.totalCount), ("total_pages", .ofNat p.totalPages),
    ("has_next", .bool p.hasNext), ("has_prev", .bool p.hasPrev)]

def ofJson? (j : Json) : Option Pagination := do
  let s ← j.slots? ["page", "page_size", "total_count", "total_pages", "has_next", "has_prev"]
  return {
    page := ← (Json.slot s 0).required Json.nat?
    pageSize := ← (Json.slot s 1).required Json.nat?
    totalCount := ← (Json.slot s 2).required Json.nat?
    totalPages := ← (Json.slot s 3).required Json.nat?
    hasNext := ← (Json.slot s 4).required Json.asBool?
    hasPrev := ← (Json.slot s 5).required Json.asBool? }

end Pagination

/-- One page of a list and its place; a page past the end is empty. -/
def paginate {α : Type} (items : List α) (page pageSize : Nat) : List α × Pagination :=
  let p := Pagination.of page pageSize items.length
  ((items.drop p.start).take (p.stop - p.start), p)

/-- One page of rows. -/
structure PagedRows where
  columns : List String
  rows : List Row
  pagination : Pagination
deriving Inhabited

namespace PagedRows

def of (columns : List String) (rows : List Row) (page pageSize : Nat) : PagedRows :=
  let (rows, p) := paginate rows page pageSize
  ⟨columns, rows, p⟩

/-- The JSON form; columns are left out when there are none. -/
def toJson (p : PagedRows) : Json :=
  .obj ((if p.columns.isEmpty then [] else [("columns", .ofStrings p.columns)]) ++
    [("rows", .arr (p.rows.map .obj)), ("pagination", p.pagination.toJson)])

def ofJson? (j : Json) : Option PagedRows := do
  let s ← j.slots? ["columns", "rows", "pagination"]
  return {
    columns := ← (Json.slot s 0).withDefault [] (Json.list? Json.asString?)
    rows := ← (Json.slot s 1).required (Json.list? Json.asObject?)
    pagination := ← (Json.slot s 2).required Pagination.ofJson? }

end PagedRows

end QueryDesk.Report
