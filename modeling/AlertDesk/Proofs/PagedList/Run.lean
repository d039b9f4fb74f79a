import AlertDesk.PagedList.Session
import AlertDesk.Proofs.Split

/-!
# AlertDesk.Proofs.PagedList.Run

Runs of a list on its own.  `Transition` says once what an event can do to a
session and what is seen of it, guards included; what is shown of whole runs is
shown against it and never against `step`.

Main facts:

* `settle_newest` — the answer to the newest query is shown;
* `transition` — every step is one of the transitions;
* `issued_run` — the newest ticket counts the queries;
* `mem_waiting_run` — a query waits until an event ends it.
-/

namespace AlertDesk

/-! ## what a list shows -/

/-- What becomes of an answer that was not overtaken. -/
def Settled.ofAnswer {α : Type} : Except PortalError (Page α) → Settled
  | .ok _ => .applied
  | .error e => .failed e

/-- The list shows what came of fetching a page: the page, or the failure. -/
def ListView.Shows {α : Type} (v : ListView α) : Except PortalError (Page α) → Prop
  | .ok page => v.items = page.items ∧ v.pagination = page.pagination ∧ v.error = none
  | .error e => v.error = some e

namespace PagedList

variable {α : Type}

/-- The answer to the newest query is shown, and nothing is under way any more. -/
theorem settle_newest {l : PagedList α} {ticket : Nat} (h : l.issued = ticket)
    (answer : Except PortalError (Page α)) :
    (l.settle ticket answer).2 = Settled.ofAnswer answer ∧
      (l.settle ticket answer).1.view.loading = false ∧
      (l.settle ticket answer).1.view.Shows answer := by
  cases answer with
  | ok page => simp [settle, h, Settled.ofAnswer, ListView.Shows]
  | error e => simp [settle, h, Settled.ofAnswer, ListView.Shows]

/-- A failure leaves the page that is shown. -/
theorem settle_error {l : PagedList α} {ticket : Nat} (h : l.issued = ticket) (e : PortalError) :
    (l.settle ticket (.error e)).1.view.items = l.view.items ∧
      (l.settle ticket (.error e)).1.view.pagination = l.view.pagination := by
  simp [settle, h]

namespace Event

/-- Whether the event starts a query. -/
def isQuery : Event α → Bool
  | .query _ => true
  | .answer .. | .drop _ => false

/-- The event is the answer to the query with the number, or gives it up. -/
def Ends : Event α → Nat → Prop
  | .query _, _ => False
  | .answer m _, n | .drop m, n => m = n

end Event

namespace Session

/-! ## runs -/

@[simp] theorem run_nil (s : Session α) : s.run [] = (s, []) := rfl

theorem run_cons (s : Session α) (e : Event α) (es : List (Event α)) :
    s.run (e :: es) = (((s.step e).1.run es).1, (s.step e).2 ++ ((s.step e).1.run es).2) := rfl

theorem run_append (s : Session α) (a b : List (Event α)) :
    s.run (a ++ b) = (((s.run a).1.run b).1, (s.run a).2 ++ ((s.run a).1.run b).2) := by
  induction a generalizing s with
  | nil => simp
  | cons e es ih => simp [run_cons, ih, List.append_assoc]

theorem run_concat (s : Session α) (es : List (Event α)) (e : Event α) :
    (s.run (es ++ [e])).1 = ((s.run es).1.step e).1 := by
  simp [run_append, run_cons]

/-! ## what one event can do -/

/-- What one event can do to a session, and what is seen of it. -/
inductive Transition (s : Session α) : Event α → Session α → List Note → Prop where
  | started (params : Option ListQuery) :
      Transition s (.query params)
        { list := s.list.begin params
          waiting := s.waiting ++ [⟨s.started, s.list.issued + 1⟩]
          started := s.started + 1 }
        [.called s.started (params.getD s.list.view.query)]
  | overtaken (fetch : Fetch) (answer : Except PortalError (Page α))
      (waits : s.find? fetch.number = some fetch) (newer : s.list.issued ≠ fetch.ticket) :
      Transition s (.answer fetch.number answer) (s.forget fetch.number)
        [.finished fetch.number .superseded]
  | settled (fetch : Fetch) (answer : Except PortalError (Page α))
      (waits : s.find? fetch.number = some fetch) (newest : s.list.issued = fetch.ticket) :
      Transition s (.answer fetch.number answer)
        { s.forget fetch.number with list := (s.list.settle fetch.ticket answer).1 }
        [.finished fetch.number (Settled.ofAnswer answer)]
  | stray (number : Nat) (answer : Except PortalError (Page α)) (unknown : s.find? number = none) :
      Transition s (.answer number answer) s []
  | dropped (number : Nat) : Transition s (.drop number) (s.forget number) []

/-- A query that is found waits, and has the number it was found by. -/
theorem mem_of_find? {s : Session α} {number : Nat} {fetch : Fetch}
    (h : s.find? number = some fetch) : fetch ∈ s.waiting ∧ fetch.number = number := by
  have hn := List.find?_some h
  exact ⟨List.mem_of_find?_eq_some h, by simpa using hn⟩

/-- **Every step is one of the transitions.** -/
theorem transition (s : Session α) (e : Event α) : Transition s e (s.step e).1 (s.step e).2 := by
  cases e with
  | query params => exact .started params
  | answer number answer =>
      cases hf : s.find? number with
      | none => simpa [step, hf] using Transition.stray number answer hf
      | some fetch =>
          obtain ⟨-, rfl⟩ := mem_of_find? hf
          by_cases ht : s.list.issued = fetch.ticket
          · simpa [step, hf, (settle_newest ht answer).1] using
              Transition.settled fetch answer hf ht
          · simpa [step, hf, settle_superseded ht, forget] using
              Transition.overtaken fetch answer hf ht
  | drop number => exact .dropped number

/-! ## along a run -/

variable {s : Session α} {es : List (Event α)}

/-- A query waits until an event ends it. -/
theorem Transition.mem_waiting {e : Event α} {s' : Session α} {notes : List Note}
    (t : Transition s e s' notes) {f : Fetch} (hf : f ∈ s.waiting) (he : ¬ e.Ends f.number) :
    f ∈ s'.waiting := by
  have hkeep : ∀ n, n ≠ f.number → f ∈ (s.forget n).waiting := by
    intro n hn
    exact List.mem_filter.mpr ⟨hf, by simpa using Ne.symm hn⟩
  cases t with
  | started params => exact List.mem_append_left _ hf
  | overtaken g answer waits newer => exact hkeep g.number he
  | settled g answer waits newest => exact hkeep g.number he
  | stray m answer unknown => exact hf
  | dropped m => exact hkeep m he

theorem mem_waiting_run {f : Fetch} (hf : f ∈ s.waiting) (h : ∀ e ∈ es, ¬ e.Ends f.number) :
    f ∈ (s.run es).1.waiting := by
  induction es generalizing s with
  | nil => exact hf
  | cons e es ih =>
      rw [run_cons]
      have hstep := (transition s e).mem_waiting hf (h e List.mem_cons_self)
      exact ih hstep fun e' he' => h e' (List.mem_cons_of_mem e he')

/-- Queries take the tickets in turn. -/
theorem Transition.issued {e : Event α} {s' : Session α} {notes : List Note}
    (t : Transition s e s' notes) :
    s'.list.issued = s.list.issued + if e.isQuery then 1 else 0 := by
  cases t <;> simp [Event.isQuery, forget]

theorem countP_isQuery_eq_zero :
    es.countP Event.isQuery = 0 ↔ ∀ params, .query params ∉ es := by
  rw [List.countP_eq_zero]
  constructor
  · intro h params hmem
    exact h _ hmem rfl
  · intro h e he
    cases e with
    | query params => exact absurd he (h params)
    | answer n answer => simp [Event.isQuery]
    | drop n => simp [Event.isQuery]

/-- The newest ticket counts the queries. -/
theorem issued_run (s : Session α) (es : List (Event α)) :
    (s.run es).1.list.issued = s.list.issued + es.countP Event.isQuery := by
  induction es generalizing s with
  | nil => rfl
  | cons e es ih =>
      rw [run_cons, ih, (transition s e).issued, List.countP_cons]
      omega

end Session

end PagedList

end AlertDesk
