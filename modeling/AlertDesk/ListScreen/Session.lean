import AlertDesk.ListScreen
import AlertDesk.Reply

/-!
# AlertDesk.ListScreen.Session

A list screen in use.  Queries and confirmations are *tasks*: each waits for a
call to the portal to be answered, and any number of them may wait at once.  A
confirmation waits twice, first for the delete and then for the refresh of the
list that follows it.

`step` takes one event: something the user does, an answer of the portal, or a
task that is given up.  It returns the notes of what happened: calls that were
made, commands to the user interface, tasks that came to their end.  An answer
to a call for which no task waits is ignored.

`perform` takes an event and has a portal answer the calls that come of it, as
long as it does.  A delete that is answered makes one more call, and nothing
else does, so that two rounds are enough.

Main facts: `called_length_le`, a step makes at most one call; `delivered_cancel`
and `delivered_confirm`, giving up closes the dialogue at most, and so does a
confirmation that does not fail.
-/

namespace AlertDesk.ListScreen

/-- What a task waits for. -/
inductive Awaited where
  /-- The page of a query; if the query refreshes the list after a delete, the
  deleted record. -/
  | page (ticket : Nat) (deleted : Option String)
  /-- That a record has been deleted. -/
  | receipt (id : String)
  deriving DecidableEq

/-- A task that waits for a call to be answered. -/
structure Task where
  /-- Counts the tasks of the session from 0. -/
  number : Nat
  call : Nat
  awaited : Awaited
  deriving DecidableEq

/-- A list screen in use. -/
structure Session (α : Type) where
  screen : ListScreen α := {}
  token : CsrfToken
  /-- Whether the user interface still listens. -/
  uiOpen : Bool := true
  waiting : List Task := []
  tasks : Nat := 0
  calls : Nat := 0

/-- What may happen to a list screen. -/
inductive Event where
  | query (params : Option ListQuery)
  | remove (id : String)
  | confirm
  | cancel
  | answerQuery (call : Nat) (answer : Except PortalError QueryResponse)
  | answerDelete (call : Nat) (answer : Except PortalError Unit)
  | drop (task : Nat)
  | closeUi

/-- How a task ended. -/
inductive Ending where
  | query (outcome : Settled)
  /-- A confirmation, with the record that was deleted if there was one. -/
  | confirmed (deleted : Option String)
  | confirmFailed (error : PortalError)
  deriving DecidableEq

/-- What is seen of a step. -/
inductive Note where
  | called (number : Nat) (call : Call)
  /-- A command to the user interface, and whether it was still there to take it. -/
  | emitted (command : UiCommand) (delivered : Bool)
  | finished (task : Nat) (ending : Ending)
  /-- What staging a record returned. -/
  | removed (accepted : Bool)
  deriving DecidableEq

namespace Note

/-- The call of a note. -/
def call? : Note → Option (Nat × Call)
  | .called n c => some (n, c)
  | _ => none

/-- The command of a note, if it was taken in. -/
def delivered? : Note → Option UiCommand
  | .emitted c true => some c
  | _ => none

/-- The end of a task. -/
def finished? : Note → Option (Nat × Ending)
  | .finished n e => some (n, e)
  | _ => none

end Note

namespace Session

variable {α : Type} [Entity α]

/-- The task that waits for a call. -/
def find? (s : Session α) (call : Nat) : Option Task := s.waiting.find? (·.call = call)

/-- No longer waits for a call. -/
def forget (s : Session α) (call : Nat) : Session α :=
  { s with waiting := s.waiting.filter (·.call ≠ call) }

/-- A command to the user interface. -/
def emit (s : Session α) (command : UiCommand) : Note := .emitted command s.uiOpen

/-- A task makes a call and waits for it. -/
def await (s : Session α) (task : Nat) (call : Call) (awaited : Awaited) :
    Session α × List Note :=
  ({ s with waiting := s.waiting ++ [⟨task, s.calls, awaited⟩], calls := s.calls + 1 },
   [.called s.calls call])

/-- A task queries the list; `deleted` is the record whose delete it follows. -/
def fetch (s : Session α) (task : Nat) (params : Option ListQuery) (deleted : Option String) :
    Session α × List Note :=
  let list := s.screen.list.begin params
  { s with screen := { s.screen with list } }.await task
    (.query (Entity.kind α) list.view.query) (.page list.issued deleted)

/-- The portal has answered a query. -/
def queryAnswered (s : Session α) (task : Task) (ticket : Nat) (deleted : Option String)
    (answer : Except PortalError QueryResponse) : Session α × List Note :=
  let (list, outcome) := s.screen.list.settle ticket (Page.ofAnswer answer)
  let ending := match deleted with
    | some id => Ending.confirmed (some id)
    | none => .query outcome
  ({ s.forget task.call with screen := { s.screen with list } }, [.finished task.number ending])

/-- The portal has answered a delete. -/
def deleteAnswered (s : Session α) (task : Task) (id : String)
    (answer : Except PortalError Unit) : Session α × List Note :=
  let s := s.forget task.call
  match answer with
  | .error e =>
    ({ s with screen := s.screen.deleteFailed id e },
     [s.emit (.requestConfirmation id), .finished task.number (.confirmFailed e)])
  | .ok () =>
    let (s', notes) := { s with screen := s.screen.deleteDone }.fetch task.number none (some id)
    (s', s.emit .closeConfirmation :: notes)

/-- One event. -/
def step (s : Session α) : Event → Session α × List Note
  | .query params => { s with tasks := s.tasks + 1 }.fetch s.tasks params none
  | .remove id => match s.screen.remove id with
    | none => (s, [.removed false])
    | some screen => ({ s with screen }, [s.emit (.requestConfirmation id), .removed true])
  | .confirm => match s.screen.confirm with
    | none => ({ s with tasks := s.tasks + 1 }, [.finished s.tasks (.confirmed none)])
    | some (id, screen) =>
      { s with tasks := s.tasks + 1, screen }.await s.tasks
        (.delete (Entity.kind α) id s.token) (.receipt id)
  | .cancel => match s.screen.cancel with
    | none => (s, [])
    | some screen => ({ s with screen }, [s.emit .closeConfirmation])
  | .answerQuery call answer => match s.find? call with
    | some task => match task.awaited with
      | .page ticket deleted => s.queryAnswered task ticket deleted answer
      | .receipt _ => (s, [])
    | none => (s, [])
  | .answerDelete call answer => match s.find? call with
    | some task => match task.awaited with
      | .receipt id => s.deleteAnswered task id answer
      | .page .. => (s, [])
    | none => (s, [])
  | .drop task => ({ s with waiting := s.waiting.filter (·.number ≠ task) }, [])
  | .closeUi => ({ s with uiOpen := false }, [])

/-- Events in turn, with everything seen of them. -/
def run (s : Session α) : List Event → Session α × List Note
  | [] => (s, [])
  | e :: es =>
    let (s, notes) := s.step e
    let (s, more) := s.run es
    (s, notes ++ more)

/-- Whether a task waits for an answer. -/
def waits (s : Session α) (task : Nat) : Bool := s.waiting.any (·.number = task)

/-- The event of a reply to a call; `none` if no task waits for it. -/
def replyEvent? (s : Session α) (call : Nat) (r : Reply) : Option Event :=
  (s.find? call).map fun task => match task.awaited with
    | .page .. => .answerQuery call r.response
    | .receipt _ => .answerDelete call r.receipt

/-! ## with a portal that answers -/

/-- The event of an answer, if there is one to the call. -/
def answerEvent (number : Nat) : (call : Call) → Option call.Answer → Option Event
  | .query .., some answer => some (.answerQuery number answer)
  | .delete .., some answer => some (.answerDelete number answer)
  | _, _ => none

variable {σ : Type}

/-- Has the portal answer the call among the notes, then the call that comes of
the answer, for so many rounds. -/
def follow (portal : Portal σ) (rounds : Nat) (s : Session α) (notes : List Note) (p : σ) :
    Session α × List Note × σ :=
  match rounds, notes.findSome? Note.call? with
  | rounds + 1, some (number, call) =>
    let (answer, p) := portal call p
    match answerEvent number call answer with
    | none => (s, notes, p)
    | some event =>
      let (s, more) := s.step event
      let (s, rest, p) := follow portal rounds s more p
      (s, notes ++ rest, p)
  | _, _ => (s, notes, p)

/-- One event, with the portal answering. -/
def perform (portal : Portal σ) (s : Session α) (event : Event) (p : σ) :
    Session α × List Note × σ :=
  let (s, notes) := s.step event
  follow portal 2 s notes p

/-! ## what a step does -/

@[simp] theorem step_closeUi (s : Session α) : s.step .closeUi = ({ s with uiOpen := false }, []) :=
  rfl

@[simp] theorem call?_called (n : Nat) (c : Call) : (Note.called n c).call? = some (n, c) := rfl
@[simp] theorem call?_emitted (c : UiCommand) (b : Bool) : (Note.emitted c b).call? = none := rfl
@[simp] theorem call?_finished (n : Nat) (e : Ending) : (Note.finished n e).call? = none := rfl
@[simp] theorem call?_removed (b : Bool) : (Note.removed b).call? = none := rfl

@[simp] theorem delivered?_called (n : Nat) (c : Call) : (Note.called n c).delivered? = none := rfl

@[simp] theorem delivered?_finished (n : Nat) (e : Ending) :
    (Note.finished n e).delivered? = none := rfl

/-- A step makes at most one call. -/
theorem called_length_le (s : Session α) (e : Event) :
    ((s.step e).2.filterMap Note.call?).length ≤ 1 := by
  cases e with
  | query => simp [step, fetch, await]
  | remove id => simp only [step]; split <;> simp [emit, List.filterMap_cons]
  | confirm => simp only [step]; split <;> simp [await, List.filterMap_cons]
  | cancel => simp only [step]; split <;> simp [emit, List.filterMap_cons]
  | answerQuery n a =>
    simp only [step]
    split
    · split <;> simp [queryAnswered, List.filterMap_cons]
    · simp
  | answerDelete n a =>
    simp only [step]
    split
    · split
      · simp only [deleteAnswered]
        split <;> simp [fetch, await, emit, List.filterMap_cons]
      · simp
    · simp
  | drop t => simp [step]
  | closeUi => simp [step]

/-! ## what the user interface takes in -/

theorem delivered_emitted (c : UiCommand) (b : Bool) :
    ([Note.emitted c b].filterMap Note.delivered?).Sublist [c] := by
  cases b <;> simp [Note.delivered?]

/-- Without a call there is nothing to follow. -/
theorem follow_of_no_call {portal : Portal σ} {rounds : Nat} {s : Session α} {notes : List Note}
    {p : σ} (h : notes.findSome? Note.call? = none) :
    follow portal rounds s notes p = (s, notes, p) := by
  cases rounds <;> simp [follow, h]

theorem follow_unanswered {portal : Portal σ} {rounds : Nat} {s : Session α} {notes : List Note}
    {p : σ} {n : Nat} {call : Call}
    (h : notes.findSome? Note.call? = some (n, call))
    (ha : answerEvent n call (portal call p).1 = none) :
    follow portal (rounds + 1) s notes p = (s, notes, (portal call p).2) := by
  simp only [follow.eq_def, h, ha]

theorem follow_answered {portal : Portal σ} {rounds : Nat} {s : Session α} {notes : List Note}
    {p : σ} {n : Nat} {call : Call} {event : Event}
    (h : notes.findSome? Note.call? = some (n, call))
    (ha : answerEvent n call (portal call p).1 = some event) :
    follow portal (rounds + 1) s notes p =
      let next := follow portal rounds (s.step event).1 (s.step event).2 (portal call p).2
      (next.1, notes ++ next.2.1, next.2.2) := by
  rw [follow.eq_def]
  simp only [h, ha]

/-- A query that is answered tells the user interface nothing. -/
theorem delivered_answerQuery (s : Session α) (n : Nat)
    (answer : Except PortalError QueryResponse) :
    (s.step (.answerQuery n answer)).2.filterMap Note.delivered? = [] := by
  simp only [step]
  split
  · split <;> simp [queryAnswered]
  · rfl

/-- What follows a call to query tells the user interface nothing. -/
theorem delivered_follow_query (portal : Portal σ) (s : Session α) {notes : List Note} {n : Nat}
    {kind : Kind} {q : ListQuery} (h : notes.findSome? Note.call? = some (n, .query kind q))
    (p : σ) : (follow portal 1 s notes p).2.1.filterMap Note.delivered? =
      notes.filterMap Note.delivered? := by
  cases ha : (portal (.query kind q) p).1 with
  | none => rw [follow_unanswered h (by simp [ha, answerEvent])]
  | some answer =>
    rw [follow_answered h (by simp [ha, answerEvent]; rfl)]
    simp [delivered_answerQuery, follow]

/-- What the answer to a delete brings: nothing, a new question and the failure,
or the end of the dialogue and a call to query. -/
theorem notes_answerDelete (s : Session α) (n : Nat) (answer : Except PortalError Unit) :
    (s.step (.answerDelete n answer)).2 = [] ∨
    (∃ id task e, (s.step (.answerDelete n answer)).2 =
      [s.emit (.requestConfirmation id), .finished task (.confirmFailed e)]) ∨
    ∃ m kind q, (s.step (.answerDelete n answer)).2 =
      [s.emit .closeConfirmation, .called m (.query kind q)] := by
  simp only [step]
  split
  · split
    · cases answer with
      | error e => exact .inr (.inl ⟨_, _, _, rfl⟩)
      | ok => exact .inr (.inr ⟨_, _, _, rfl⟩)
    · exact .inl rfl
  · exact .inl rfl

/-- Giving up closes the dialogue at most. -/
theorem delivered_cancel (portal : Portal σ) (s : Session α) (p : σ) :
    ((s.perform portal .cancel p).2.1.filterMap Note.delivered?).Sublist [.closeConfirmation] := by
  rw [perform]
  simp only [step]
  split
  · rw [follow_of_no_call rfl]
    simp
  · rw [follow_of_no_call (by simp [emit])]
    exact delivered_emitted ..

/-- A call to delete that is followed fails, or closes the dialogue at most. -/
theorem delivered_follow_delete (portal : Portal σ) (s : Session α) (n : Nat) (kind : Kind)
    (id : String) (token : CsrfToken) (p : σ) :
    let notes := (follow portal 2 s [.called n (.delete kind id token)] p).2.1
    (∃ task e, notes.findSome? Note.finished? = some (task, .confirmFailed e)) ∨
      (notes.filterMap Note.delivered?).Sublist [.closeConfirmation] := by
  cases ha : (portal (.delete kind id token) p).1 with
  | none =>
    rw [follow_unanswered rfl (by simp [ha, answerEvent])]
    simp
  | some answer =>
    rw [follow_answered rfl (by simp [ha, answerEvent]; rfl)]
    obtain h | ⟨id', task, e, h⟩ | ⟨m, kind', q, h⟩ := notes_answerDelete s n answer
    · rw [h, follow_of_no_call rfl]
      simp
    · rw [h, follow_of_no_call rfl]
      exact .inl ⟨task, e, rfl⟩
    · right
      simp only [List.filterMap_append]
      rw [h, delivered_follow_query _ _ rfl]
      simp only [emit]
      cases s.uiOpen <;> simp [List.filterMap_cons, Note.delivered?]

/-- A confirmation that does not fail closes the dialogue at most. -/
theorem delivered_confirm (portal : Portal σ) (s : Session α) (p : σ) :
    (∃ task e, (s.perform portal .confirm p).2.1.findSome? Note.finished? =
      some (task, .confirmFailed e)) ∨
    ((s.perform portal .confirm p).2.1.filterMap Note.delivered?).Sublist [.closeConfirmation] := by
  rw [perform]
  cases hc : s.screen.confirm with
  | none =>
    simp only [step, hc]
    rw [follow_of_no_call rfl]
    simp
  | some sent =>
    simp only [step, hc, await]
    exact delivered_follow_delete ..

end Session

end AlertDesk.ListScreen
