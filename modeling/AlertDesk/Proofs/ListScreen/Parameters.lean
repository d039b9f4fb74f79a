import AlertDesk.Proofs.ListScreen.Log
import AlertDesk.Proofs.PagedList.Parameters
import AlertDesk.Record.Alert

/-!
# AlertDesk.Proofs.ListScreen.Parameters

The parameters with which a list screen queries its list.  A screen starts a
query when it is told to, with parameters or without, and once more when a
delete has gone through (`Session.asked`); that one is always without.  So a
refresh asks for the page, the search and the filters that were set last, as on
a list of its own.

Main fact: `parameters_kept` — every query is handed over with the parameters in
force at its start, and the list shows those of the query started last.
-/

namespace AlertDesk.ListScreen

/-- How the query is started that an event starts by itself. -/
def Event.asked? : Event → Option (Option ListQuery)
  | .query params => some params
  | _ => none

namespace Entry

/-- How the query is started that refreshes the list behind a delete. -/
def refresh? : Entry → Option (Option ListQuery)
  | .receipt _ (.ok ()) => some none
  | _ => none

/-- The parameters that a query is handed over with. -/
def handed? : Entry → Option ListQuery
  | .note (.called _ (.query _ q)) => some q
  | _ => none

end Entry

namespace Session

variable {α : Type} [Entity α] {s s' : Session α}

/-- How the queries are started that are started in a run, in their order. -/
def asked (s : Session α) : List Event → List (Option ListQuery)
  | [] => []
  | e :: es =>
    (e.asked?.toList ++ (s.entries e).filterMap Entry.refresh?) ++ asked (s.step e).1 es

/-- **Every transition leaves the list carrying its history.** -/
theorem Transition.carries {e : Event} {new : List Entry} (t : Transition s e s' new)
    {asked : List (Option ListQuery)} {handed : List ListQuery}
    (h : s.screen.list.view.Carries asked handed) :
    s'.screen.list.view.Carries (asked ++ (e.asked?.toList ++ new.filterMap Entry.refresh?))
      (handed ++ new.filterMap Entry.handed?) := by
  cases t with
  | queried params => exact h.began params rfl
  | deleted task id waits awaited => exact h.began none rfl
  | settled task ticket deleted answer waits awaited =>
      exact h.keep (PagedList.query_settle ..) rfl rfl
  | _ => exact h.keep rfl rfl rfl

theorem carries_run (s : Session α) (es : List Event) {asked : List (Option ListQuery)}
    {handed : List ListQuery} (h : s.screen.list.view.Carries asked handed) :
    (s.run es).1.screen.list.view.Carries (asked ++ s.asked es)
      (handed ++ (s.log es).filterMap Entry.handed?) := by
  induction es generalizing s asked handed with
  | nil => simpa [Session.asked] using h
  | cons e es ih =>
      have hstep := (transition s e).carries h
      have hrest := ih _ hstep
      rw [run_cons, log_cons, Session.asked, List.filterMap_append, ← List.append_assoc asked,
        ← List.append_assoc handed]
      exact hrest

/-- **A refresh keeps page, search and filters.**  On a list of its own and on a
list screen alike, every query that is started is handed over, each with the
parameters of the last query up to and including itself that was started with
any, or the default ones if there was none.  Nothing that becomes of the queries
in between makes a difference.  The list shows the parameters of the query that
was handed over last. -/
theorem parameters_kept (token : CsrfToken) :
    (∀ es : List (PagedList.Event α),
      let run := ({} : PagedList.Session α).run es
      let asked := es.filterMap PagedList.Event.asked?
      let handed := run.2.filterMap PagedList.Note.call?
      handed.length = asked.length ∧
      (∀ k q, handed[k]? = some q → q = standing (asked.take (k + 1))) ∧
      run.1.list.view.query = handed.getLast?.getD {}) ∧
    ∀ es : List Event,
      let s := ((opened token : Session α).run es).1
      let asked := (opened token : Session α).asked es
      let handed := ((opened token : Session α).log es).filterMap Entry.handed?
      handed.length = asked.length ∧
      (∀ k q, handed[k]? = some q → q = standing (asked.take (k + 1))) ∧
      s.screen.list.view.query = handed.getLast?.getD {} := by
  constructor
  · intro es run asked handed
    have h : run.1.list.view.Carries asked handed :=
      PagedList.Session.carries_run {} es ListView.carries_nil
    exact ⟨h.length_eq, h.handed_eq, h.query_eq_last⟩
  · intro es s asked handed
    have h : s.screen.list.view.Carries asked handed :=
      carries_run (opened token) es ListView.carries_nil
    exact ⟨h.length_eq, h.handed_eq, h.query_eq_last⟩

/-- The third page is asked for; that query is given up, a delete goes through
and its refresh fails, and one more query is started: all go to the third page. -/
example :
    let third : ListQuery := .ofPage 3
    let es : List Event := [.query none, .query (some third), .drop 1, .remove "a", .confirm,
      .answerDelete 2 (.ok ()), .answerQuery 3 (.error (.network "down")), .query none]
    let start : Session Alert := opened ⟨"t"⟩
    start.asked es = [none, some third, none, none] ∧
      (start.log es).filterMap Entry.handed? = [{}, third, third, third] := ⟨rfl, rfl⟩

end Session

end AlertDesk.ListScreen
