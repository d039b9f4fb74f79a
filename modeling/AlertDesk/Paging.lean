import AlertDesk.Record

/-!
# AlertDesk.Paging

Asking for one page of records and reading what comes back.

* `ListQuery`: page, page size, text to search for and filters.  `pairs` are
  its parameters in the order of a query string; `wire` is the same as an
  object, where a filter named like one of the first three replaces it.
* `Pagination`: what the portal reports about a page.  Nothing in it is
  computed here; what is not known by name is kept in `extra`.
* `QueryResponse`: the raw records of a page and its pagination.
* `Page`: the records decoded, all of them or none.
-/

namespace AlertDesk

/-! ## queries -/

/-- The parameters of a list query. -/
structure ListQuery where
  page : Option UInt64 := none
  pageSize : Option UInt64 := none
  contains : Option String := none
  filters : Dict String := Dict.empty
  deriving DecidableEq

namespace ListQuery

/-- The query for one page. -/
def ofPage (page : UInt64) : ListQuery := { page := some page }

/-- Asks for pages of a size. -/
def withPageSize (q : ListQuery) (size : UInt64) : ListQuery := { q with pageSize := some size }

/-- Asks for records that contain a text. -/
def withSearch (q : ListQuery) (text : String) : ListQuery := { q with contains := some text }

/-- Sets a filter. -/
def withFilter (q : ListQuery) (key value : String) : ListQuery :=
  { q with filters := q.filters.insert key value }

/-- The parameters with names of their own, as far as they are set. -/
def named (q : ListQuery) : List (String × Json) :=
  (q.page.map fun n => ("page", Json.ofUInt64 n)).toList ++
  (q.pageSize.map fun n => ("pageSize", Json.ofUInt64 n)).toList ++
  (q.contains.map fun s => ("contains", Json.str s)).toList

/-- The query as an object. -/
def wire (q : ListQuery) : Json :=
  Json.object (q.named ++ q.filters.entries.map fun p => (p.1, .str p.2))

/-- The parameters of the query string, in order. -/
def pairs (q : ListQuery) : List (String × String) :=
  (q.page.map fun n => ("page", Nat.repr n.toNat)).toList ++
  (q.pageSize.map fun n => ("pageSize", Nat.repr n.toNat)).toList ++
  (q.contains.map fun s => ("contains", s)).toList ++
  q.filters.entries

end ListQuery

/-! ## pagination -/

/-- What the portal reports about a page. -/
structure Pagination where
  page : Option UInt64 := none
  pageSize : Option UInt64 := none
  totalCount : Option UInt64 := none
  extra : Dict Json := Dict.empty
  deriving DecidableEq

namespace Pagination

/-- The fields known by name. -/
def layout : Layout where
  wanted := "struct Pagination"
  fields := [
    { name := "page", check := checkCount },
    { name := "pageSize", otherName := some "size", check := checkCount },
    { name := "totalCount", otherName := some "total", check := checkCount }]

/-- Reads a pagination. -/
def read (v : Json) : Except Mismatch Pagination := do
  let fields ← layout.readObject v
  return {
    page := countOf (Keyed.get? "page" fields)
    pageSize := countOf (Keyed.get? "pageSize" fields)
    totalCount := countOf (Keyed.get? "totalCount" fields)
    extra := Dict.ofList (layout.others v) }

/-- Reads a pagination. -/
def decode (v : Json) : Except PortalError Pagination := decoded (read v)

/-- The known fields that are set. -/
def named (p : Pagination) : List (String × Json) :=
  (p.page.map fun n => ("page", Json.ofUInt64 n)).toList ++
  (p.pageSize.map fun n => ("pageSize", Json.ofUInt64 n)).toList ++
  (p.totalCount.map fun n => ("totalCount", Json.ofUInt64 n)).toList

/-- Writes a pagination: the known fields, then the others over them. -/
def wire (p : Pagination) : Json := .obj (Keyed.insertAll p.extra.entries p.named)

end Pagination

/-! ## responses -/

/-- The body of a query's response. -/
structure QueryResponse where
  data : List Json := []
  pagination : Pagination := {}
  deriving DecidableEq

namespace QueryResponse

/-- Null or a pagination. -/
def checkPagination : Check
  | .null => .ok ()
  | v => (Pagination.read v).map fun _ => ()

/-- The pagination in a field; the one without any fields for null or nothing. -/
def paginationOf (v : Option Json) : Pagination :=
  match v with
  | some v => match Pagination.read v with
    | .ok p => p
    | .error _ => {}
  | none => {}

/-- The fields of a response, in the order of an array. -/
def layout : Layout where
  wanted := "struct QueryResponse"
  fields := [
    { name := "data", check := checkList },
    { name := "pagination", check := checkPagination }]

/-- Reads a response. -/
def decode (v : Json) : Except PortalError QueryResponse := do
  let fields ← decoded (layout.read v)
  return {
    data := itemsOf (Keyed.get? "data" fields)
    pagination := paginationOf (Keyed.get? "pagination" fields) }

end QueryResponse

/-! ## pages -/

/-- One page of records. -/
structure Page (α : Type) where
  items : List α
  pagination : Pagination
  deriving DecidableEq

namespace Page

variable {α : Type} [Entity α]

/-- Decodes the records of a response, in order; the leftmost record that does
not decode is the error. -/
def ofResponse (r : QueryResponse) : Except PortalError (Page α) := do
  let items ← r.data.mapM Entity.decode
  return ⟨items, r.pagination⟩

/-- What fetching a page gives for the portal's answer to the query. -/
def ofAnswer (answer : Except PortalError QueryResponse) : Except PortalError (Page α) :=
  answer.bind ofResponse

/-- A page from raw records and a raw pagination; the records decode first. -/
def ofRaw (items : List Json) (pagination : Json) : Except PortalError (Page α) := do
  let items ← items.mapM Entity.decode
  let pagination ← Pagination.decode pagination
  return ⟨items, pagination⟩

end Page

end AlertDesk
