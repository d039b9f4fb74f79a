import AlertDesk.PagedList

/-!
# AlertDesk.PagedList.Session

A list on its own, over whatever fetches its pages: queries are started, are
answered in any order, or are given up.

`step` takes one event and returns what happened besides, as notes.  An answer
to a query that does not wait for one is ignored.
-/

namespace AlertDesk.PagedList

/-- A query that waits for its page. -/
structure Fetch where
  /-- Counts the queries of the session from 0. -/
  number : Nat
  ticket : Nat
  deriving DecidableEq

/-- A list and the queries that wait for their pages. -/
structure Session (α : Type) where
  list : PagedList α := {}
  waiting : List Fetch := []
  started : Nat := 0

/-- What may happen to a list. -/
inductive Event (α : Type) where
  | query (params : Option ListQuery)
  | answer (number : Nat) (answer : Except PortalError (Page α))
  | drop (number : Nat)

/-- What is seen of a step. -/
inductive Note where
  /-- A page was asked for. -/
  | called (number : Nat) (query : ListQuery)
  /-- A query came to its end. -/
  | finished (number : Nat) (outcome : Settled)
  deriving DecidableEq

namespace Note

/-- The query of a note that a page was asked for. -/
def call? : Note → Option ListQuery
  | .called _ q => some q
  | .finished .. => none

/-- The end of a query. -/
def finished? : Note → Option (Nat × Settled)
  | .finished n outcome => some (n, outcome)
  | .called .. => none

end Note

namespace Session

variable {α : Type}

/-- The query with a number, if it waits. -/
def find? (s : Session α) (number : Nat) : Option Fetch :=
  s.waiting.find? (·.number = number)

/-- No longer waits for a query. -/
def forget (s : Session α) (number : Nat) : Session α :=
  { s with waiting := s.waiting.filter (·.number ≠ number) }

/-- One event. -/
def step (s : Session α) : Event α → Session α × List Note
  | .query params =>
    let list := s.list.begin params
    ({ list
       waiting := s.waiting ++ [⟨s.started, list.issued⟩]
       started := s.started + 1 },
     [.called s.started list.view.query])
  | .answer number answer => match s.find? number with
    | none => (s, [])
    | some fetch =>
      let (list, outcome) := s.list.settle fetch.ticket answer
      ({ s.forget number with list }, [.finished number outcome])
  | .drop number => (s.forget number, [])

/-- Events in turn, with everything seen of them. -/
def run (s : Session α) : List (Event α) → Session α × List Note
  | [] => (s, [])
  | e :: es =>
    let (s, notes) := s.step e
    let (s, more) := s.run es
    (s, notes ++ more)

end Session

end AlertDesk.PagedList
