import AlertDesk.ListScreen.Session

/-!
# AlertDesk.Proofs.ListScreen.Perform

A list screen whose calls are all answered, one event at a time.

`Session.perform` has a portal answer the calls that come of an event.  With a
portal that leaves no call unanswered, and a session in which no task waits,
what it does can be said in one equation for each event: the session that comes
of it, the notes in order, and what the portal keeps.  No task waits afterwards
either, so the equations apply to the next event again.

* `perform_query`: the page is asked for, and shown or refused;
* `perform_remove`, `perform_cancel`: the user interface is told, and no call is made;
* `perform_confirm_failed`: the record is staged again, and the user is asked again;
* `perform_confirm_deleted`: the dialogue ends, and the list is refreshed;
* `total_refreshed`: a refresh that fails leaves the total that was shown.
-/

namespace AlertDesk.ListScreen.Session

variable {α σ : Type} [Entity α]
variable (answer : (call : Call) → σ → call.Answer × σ) {s : Session α} {id : String} {p : σ}

/-- The session after a query that was answered before anything else happened. -/
def refreshed (s : Session α) (params : Option ListQuery)
    (response : Except PortalError QueryResponse) : Session α :=
  let list := s.screen.list.begin params
  { s with
    screen := { s.screen with list := (list.settle list.issued (Page.ofAnswer response)).1 }
    tasks := s.tasks + 1
    calls := s.calls + 1 }

/-- The total that a list shows. -/
def total (s : Session α) : Option UInt64 := s.screen.list.view.pagination.totalCount

variable (α) in
/-- The total that is known once a page was asked for: that of the page, or the
one known before if there is no page. -/
def totalAfter (known : Option UInt64) (response : Except PortalError QueryResponse) :
    Option UInt64 :=
  match (Page.ofAnswer response : Except PortalError (Page α)) with
  | .ok page => page.pagination.totalCount
  | .error _ => known

theorem totalAfter_of_ok {known : Option UInt64} {response : Except PortalError QueryResponse}
    {page : Page α} (h : Page.ofAnswer response = .ok page) :
    totalAfter α known response = page.pagination.totalCount := by
  rw [totalAfter, h]

theorem totalAfter_of_error {known : Option UInt64} {response : Except PortalError QueryResponse}
    {e : PortalError} (h : (Page.ofAnswer response : Except PortalError (Page α)) = .error e) :
    totalAfter α known response = known := by
  rw [totalAfter, h]

theorem total_refreshed (s : Session α) (params : Option ListQuery)
    (response : Except PortalError QueryResponse) :
    (s.refreshed params response).total = totalAfter α s.total response := by
  cases h : (Page.ofAnswer response : Except PortalError (Page α)) with
  | ok page => simp [totalAfter_of_ok h, refreshed, total, PagedList.settle, PagedList.begin, h]
  | error e => simp [totalAfter_of_error h, refreshed, total, PagedList.settle, PagedList.begin, h]

omit [Entity α] in
theorem find?_of_single {task : Task} (waits : s.waiting = [task]) :
    s.find? task.call = some task := by
  simp [find?, waits]

omit [Entity α] in
theorem forget_of_single {task call : Nat} {awaited : Awaited}
    (waits : s.waiting = [⟨task, call, awaited⟩]) :
    s.forget call = { s with waiting := [] } := by
  simp [forget, waits]

/-- The answer to a query, once the task that waits for it is the only one. -/
theorem follow_query {task : Task} {ticket : Nat} {deleted : Option String} {kind : Kind}
    {q : ListQuery} {rounds : Nat} {notes : List Note} (waits : s.waiting = [task])
    (page : task.awaited = .page ticket deleted)
    (called : notes.findSome? Note.call? = some (task.call, .query kind q)) :
    follow (.answering answer) (rounds + 1) s notes p =
      let next := s.queryAnswered task ticket deleted (answer (.query kind q) p).1
      (next.1, notes ++ next.2, (answer (.query kind q) p).2) := by
  rw [follow_answered called rfl]
  simp only [step, find?_of_single waits, page, Portal.answering_apply]
  rw [follow_of_no_call rfl]

/-- The answer to a delete, once the task that waits for it is the only one. -/
theorem follow_delete {task : Task} {kind : Kind} {token : CsrfToken} {rounds : Nat}
    {notes : List Note} (waits : s.waiting = [task]) (receipt : task.awaited = .receipt id)
    (called : notes.findSome? Note.call? = some (task.call, .delete kind id token)) :
    follow (.answering answer) (rounds + 1) s notes p =
      let sent := answer (.delete kind id token) p
      let next := s.deleteAnswered task id sent.1
      let rest := follow (.answering answer) rounds next.1 next.2 sent.2
      (rest.1, notes ++ rest.2.1, rest.2.2) := by
  rw [follow_answered called rfl]
  simp only [step, find?_of_single waits, receipt, Portal.answering_apply]

theorem perform_query (quiet : s.waiting = []) (params : Option ListQuery) :
    let list := s.screen.list.begin params
    let call := Call.query (Entity.kind α) list.view.query
    let (response, p') := answer call p
    s.perform (.answering answer) (.query params) p =
      (s.refreshed params response,
        [.called s.calls call,
          .finished s.tasks (.query (list.settle list.issued (Page.ofAnswer response)).2)],
        p') := by
  simp only [perform, step, fetch, await, quiet, List.nil_append]
  rw [follow_query answer rfl rfl rfl]
  simp [queryAnswered, refreshed, forget, quiet]

theorem perform_remove (portal : Portal σ) (id : String) (p : σ)
    (idle : s.screen.stage = .idle) :
    s.perform portal (.remove id) p =
      ({ s with screen := { s.screen with stage := .staged id, deleteError := none } },
        [s.emit (.requestConfirmation id), .removed true], p) := by
  simp only [perform, step, ListScreen.remove, idle]
  rw [follow_of_no_call rfl]

theorem perform_cancel (portal : Portal σ) (p : σ) (stage : s.screen.stage = .staged id) :
    s.perform portal .cancel p =
      ({ s with screen := { s.screen with stage := .idle } }, [s.emit .closeConfirmation], p) := by
  simp only [perform, step, ListScreen.cancel, stage]
  rw [follow_of_no_call rfl]

variable {answer}

theorem perform_confirm_failed (quiet : s.waiting = []) (stage : s.screen.stage = .staged id)
    {e : PortalError} {p' : σ}
    (failed : answer (.delete (Entity.kind α) id s.token) p = (.error e, p')) :
    s.perform (.answering answer) .confirm p =
      ({ s with
          screen := s.screen.deleteFailed id e, tasks := s.tasks + 1, calls := s.calls + 1 },
        [.called s.calls (.delete (Entity.kind α) id s.token), s.emit (.requestConfirmation id),
          .finished s.tasks (.confirmFailed e)], p') := by
  simp only [perform, step, ListScreen.confirm, stage, await, quiet, List.nil_append]
  rw [follow_delete answer rfl rfl rfl]
  simp only [failed, deleteAnswered]
  rw [follow_of_no_call rfl]
  simp [forget, emit, ListScreen.deleteFailed]

theorem perform_confirm_deleted (quiet : s.waiting = []) (stage : s.screen.stage = .staged id)
    {p₁ : σ} (deleted : answer (.delete (Entity.kind α) id s.token) p = (.ok (), p₁)) :
    let call := Call.query (Entity.kind α) s.screen.list.view.query
    let (response, p₂) := answer call p₁
    s.perform (.answering answer) .confirm p =
      ({ s with screen := s.screen.deleteDone, calls := s.calls + 1 }.refreshed none response,
        [.called s.calls (.delete (Entity.kind α) id s.token), s.emit .closeConfirmation,
          .called (s.calls + 1) call, .finished s.tasks (.confirmed (some id))], p₂) := by
  simp only [perform, step, ListScreen.confirm, stage, await, quiet, List.nil_append]
  rw [follow_delete answer rfl rfl rfl]
  simp only [deleted, deleteAnswered]
  rw [forget_of_single rfl]
  simp only [fetch, await, emit, List.nil_append]
  rw [follow_query answer rfl rfl rfl]
  simp [queryAnswered, refreshed, forget, ListScreen.deleteDone]

end AlertDesk.ListScreen.Session
