import AlertDesk.Paging

/-!
# AlertDesk.PagedList

One page of records on the screen, refreshed by queries that may overlap.

Every query gets a ticket, one higher than the last.  `begin` shows that a
query is under way, `settle` takes in its answer, but only while its ticket is
still the newest: an answer that was overtaken changes nothing.  A failure
leaves the page that is shown and puts the error beside it.

Main facts:

* `settle_superseded`: an overtaken answer leaves the list as it is;
* `query_begin`: a query without parameters repeats those of the one before.
-/

namespace AlertDesk

/-- What a list shows. -/
structure ListView (α : Type) where
  items : List α := []
  pagination : Pagination := {}
  /-- The parameters of the query that was started last. -/
  query : ListQuery := {}
  /-- The failure of the last query; the items are then older. -/
  error : Option PortalError := none
  loading : Bool := false
  deriving DecidableEq

/-- A list: what it shows, the ticket given out last, and how many times those
who watch it were told to look.  The program counts tickets in a word of 64 bits,
which is a number as long as fewer than 2^64 queries are started. -/
structure PagedList (α : Type) where
  view : ListView α := {}
  issued : Nat := 0
  revision : Nat := 0
  deriving DecidableEq

/-- What becomes of the answer to a query. -/
inductive Settled where
  | applied
  /-- A newer query was started in between. -/
  | superseded
  | failed (error : PortalError)
  deriving DecidableEq

namespace PagedList

variable {α : Type}

/-- Starts a query, with new parameters or those of the last one.  Its ticket
is the `issued` of the result. -/
def begin (l : PagedList α) (params : Option ListQuery) : PagedList α where
  view := { l.view with query := params.getD l.view.query, loading := true }
  issued := l.issued + 1
  revision := l.revision + 1

/-- Takes in the answer to the query with a ticket. -/
def settle (l : PagedList α) (ticket : Nat) (answer : Except PortalError (Page α)) :
    PagedList α × Settled :=
  if l.issued ≠ ticket then (l, .superseded)
  else match answer with
    | .ok page =>
      ({ l with
          view := { l.view with
            items := page.items, pagination := page.pagination, error := none, loading := false }
          revision := l.revision + 1 }, .applied)
    | .error e =>
      ({ l with
          view := { l.view with error := some e, loading := false }
          revision := l.revision + 1 }, .failed e)

/-! ## what the two operations do -/

@[simp] theorem issued_begin (l : PagedList α) (p : Option ListQuery) :
    (l.begin p).issued = l.issued + 1 := rfl

@[simp] theorem query_begin (l : PagedList α) (p : Option ListQuery) :
    (l.begin p).view.query = p.getD l.view.query := rfl

theorem settle_superseded {l : PagedList α} {ticket : Nat} (h : l.issued ≠ ticket)
    (answer : Except PortalError (Page α)) : l.settle ticket answer = (l, .superseded) := by
  simp [settle, h]

@[simp] theorem issued_settle (l : PagedList α) (ticket : Nat)
    (answer : Except PortalError (Page α)) : (l.settle ticket answer).1.issued = l.issued := by
  unfold settle
  split
  · rfl
  · split <;> rfl

@[simp] theorem query_settle (l : PagedList α) (ticket : Nat)
    (answer : Except PortalError (Page α)) :
    (l.settle ticket answer).1.view.query = l.view.query := by
  unfold settle
  split
  · rfl
  · split <;> rfl

end PagedList

end AlertDesk
