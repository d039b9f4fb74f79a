import AlertDesk.ListScreen.Session

/-!
# AlertDesk.Proofs.ListScreen.Log

The log of a list screen: what was seen of a session, in order, with every
answer that a task took in written down in front of what came of it.  An
answer that no task waits for leaves no entry, so a call whose answer is not
in the log is one whose answer was never acted on.

`Transition` says once what an event can do to a session and what it adds to
the log, guards included; every invariant of a session is shown against it and
never against `step`.

Main facts:

* `notes_log` — without the answers the log is what was seen of the run;
* `transition` — every step is one of the transitions;
* `run_induction` — what the start establishes and every transition keeps
  holds after every run;
* `exists_step_of_log_eq` — every entry of the log is added by some step of
  the run, behind the log of the run up to there;
* `calls_log` — the calls of a log are numbered in turn.
-/

namespace AlertDesk.ListScreen

/-! ## entries -/

/-- A line of the log. -/
inductive Entry where
  | note (note : Note)
  /-- A task took in the answer to its query. -/
  | pageAnswer (call : Nat) (answer : Except PortalError QueryResponse)
  /-- A task took in the answer to its delete. -/
  | receipt (call : Nat) (answer : Except PortalError Unit)

namespace Entry

/-- What was seen, if the line is no answer. -/
def note? : Entry → Option Note
  | .note n => some n
  | _ => none

/-- The number of a call. -/
def call? : Entry → Option Nat
  | .note (.called n _) => some n
  | _ => none

/-- The number of a query call. -/
def query? : Entry → Option Nat
  | .note (.called n (.query ..)) => some n
  | _ => none

/-- The number of a delete call, and the record it is for. -/
def delete? : Entry → Option (Nat × String)
  | .note (.called n (.delete _ id _)) => some (n, id)
  | _ => none

/-- A command to the user interface, whether or not it was taken in. -/
def command? : Entry → Option UiCommand
  | .note (.emitted c _) => some c
  | _ => none

/-- The number of the delete call that is answered. -/
def receipt? : Entry → Option Nat
  | .receipt n _ => some n
  | _ => none

end Entry

namespace Session

variable {α : Type}

/-- A task that is found waits for the call it was found by. -/
theorem mem_of_find? {s : Session α} {call : Nat} {task : Task} (h : s.find? call = some task) :
    task ∈ s.waiting ∧ task.call = call := by
  have hc := List.find?_some h
  exact ⟨List.mem_of_find?_eq_some h, by simpa using hc⟩

/-- The answer that an event brings, if a task takes it in. -/
def taken (s : Session α) : Event → List Entry
  | .answerQuery call answer => match (s.find? call).map Task.awaited with
    | some (.page ..) => [.pageAnswer call answer]
    | _ => []
  | .answerDelete call answer => match (s.find? call).map Task.awaited with
    | some (.receipt _) => [.receipt call answer]
    | _ => []
  | _ => []

theorem notes_taken (s : Session α) (e : Event) : (s.taken e).filterMap Entry.note? = [] := by
  unfold taken
  split
  · split <;> rfl
  · split <;> rfl
  · rfl

variable [Entity α]

/-- What an event adds to the log. -/
def entries (s : Session α) (e : Event) : List Entry := s.taken e ++ (s.step e).2.map .note

/-- The log of a run. -/
def log (s : Session α) : List Event → List Entry
  | [] => []
  | e :: es => s.entries e ++ log (s.step e).1 es

/-- A list screen that has just been opened. -/
def opened (token : CsrfToken) : Session α := { token }

/-! ## runs -/

@[simp] theorem run_nil (s : Session α) : s.run [] = (s, []) := rfl

theorem run_cons (s : Session α) (e : Event) (es : List Event) :
    s.run (e :: es) = (((s.step e).1.run es).1, (s.step e).2 ++ ((s.step e).1.run es).2) := rfl

theorem run_append (s : Session α) (a b : List Event) :
    s.run (a ++ b) = (((s.run a).1.run b).1, (s.run a).2 ++ ((s.run a).1.run b).2) := by
  induction a generalizing s with
  | nil => simp
  | cons e es ih => simp [run_cons, ih, List.append_assoc]

@[simp] theorem log_nil (s : Session α) : s.log [] = [] := rfl

theorem log_cons (s : Session α) (e : Event) (es : List Event) :
    s.log (e :: es) = s.entries e ++ (s.step e).1.log es := rfl

theorem log_append (s : Session α) (a b : List Event) :
    s.log (a ++ b) = s.log a ++ (s.run a).1.log b := by
  induction a generalizing s with
  | nil => simp
  | cons e es ih => simp [log_cons, run_cons, ih, List.append_assoc]

/-- Without the answers the log is what was seen of the run. -/
theorem notes_log (s : Session α) (es : List Event) :
    (s.log es).filterMap Entry.note? = (s.run es).2 := by
  induction es generalizing s with
  | nil => rfl
  | cons e es ih =>
      have hnotes : ((s.step e).2.map Entry.note).filterMap Entry.note? = (s.step e).2 := by
        simp [List.filterMap_map, Function.comp_def, Entry.note?]
      rw [log_cons, run_cons, entries, List.filterMap_append, List.filterMap_append, notes_taken,
        hnotes, ih, List.nil_append]

/-! ## what one event can do -/

/-- How a task ends that waited for a page: a confirmation whatever became of the refresh. -/
def pageEnding (deleted : Option String) (outcome : Settled) : Ending :=
  match deleted with
  | some id => .confirmed (some id)
  | none => .query outcome

/-- What one event can do to a session, and what it adds to the log. -/
inductive Transition (s : Session α) : Event → Session α → List Entry → Prop where
  | queried (params : Option ListQuery) :
      Transition s (.query params)
        { s with
          screen := { s.screen with list := s.screen.list.begin params }
          waiting := s.waiting ++ [⟨s.tasks, s.calls, .page (s.screen.list.issued + 1) none⟩]
          tasks := s.tasks + 1
          calls := s.calls + 1 }
        [.note (.called s.calls (.query (Entity.kind α) (params.getD s.screen.list.view.query)))]
  | refused (id other : String) (stage : s.screen.stage = .inFlight other) :
      Transition s (.remove id) s [.note (.removed false)]
  | staged (id : String) (stage : ∀ other, s.screen.stage ≠ .inFlight other) :
      Transition s (.remove id)
        { s with screen := { s.screen with stage := .staged id, deleteError := none } }
        [.note (s.emit (.requestConfirmation id)), .note (.removed true)]
  | nothingToSend (stage : ∀ id, s.screen.stage ≠ .staged id) :
      Transition s .confirm { s with tasks := s.tasks + 1 }
        [.note (.finished s.tasks (.confirmed none))]
  | sent (id : String) (stage : s.screen.stage = .staged id) :
      Transition s .confirm
        { s with
          screen := { s.screen with stage := .inFlight id }
          waiting := s.waiting ++ [⟨s.tasks, s.calls, .receipt id⟩]
          tasks := s.tasks + 1
          calls := s.calls + 1 }
        [.note (.called s.calls (.delete (Entity.kind α) id s.token))]
  | nothingToCancel (stage : ∀ id, s.screen.stage ≠ .staged id) : Transition s .cancel s []
  | cancelled (id : String) (stage : s.screen.stage = .staged id) :
      Transition s .cancel { s with screen := { s.screen with stage := .idle } }
        [.note (s.emit .closeConfirmation)]
  | settled (task : Task) (ticket : Nat) (deleted : Option String)
      (answer : Except PortalError QueryResponse)
      (waits : task ∈ s.waiting) (awaited : task.awaited = .page ticket deleted) :
      Transition s (.answerQuery task.call answer)
        { s with
          screen := { s.screen with
            list := (s.screen.list.settle ticket (Page.ofAnswer answer)).1 }
          waiting := s.waiting.filter (·.call ≠ task.call) }
        [.pageAnswer task.call answer, .note (.finished task.number
          (pageEnding deleted (s.screen.list.settle ticket (Page.ofAnswer answer)).2))]
  | failed (task : Task) (id : String) (e : PortalError)
      (waits : task ∈ s.waiting) (awaited : task.awaited = .receipt id) :
      Transition s (.answerDelete task.call (.error e))
        { s with
          screen := { s.screen with stage := .staged id, deleteError := some e }
          waiting := s.waiting.filter (·.call ≠ task.call) }
        [.receipt task.call (.error e), .note (s.emit (.requestConfirmation id)),
          .note (.finished task.number (.confirmFailed e))]
  | deleted (task : Task) (id : String)
      (waits : task ∈ s.waiting) (awaited : task.awaited = .receipt id) :
      Transition s (.answerDelete task.call (.ok ()))
        { s with
          screen :=
            { list := s.screen.list.begin none, stage := .idle, deleteError := none }
          waiting := s.waiting.filter (·.call ≠ task.call) ++
            [⟨task.number, s.calls, .page (s.screen.list.issued + 1) (some id)⟩]
          calls := s.calls + 1 }
        [.receipt task.call (.ok ()), .note (s.emit .closeConfirmation),
          .note (.called s.calls (.query (Entity.kind α) s.screen.list.view.query))]
  | strayPage (call : Nat) (answer : Except PortalError QueryResponse) :
      Transition s (.answerQuery call answer) s []
  | strayReceipt (call : Nat) (answer : Except PortalError Unit) :
      Transition s (.answerDelete call answer) s []
  | dropped (task : Nat) :
      Transition s (.drop task) { s with waiting := s.waiting.filter (·.number ≠ task) } []
  | uiClosed : Transition s .closeUi { s with uiOpen := false } []

/-- **Every step is one of the transitions.** -/
theorem transition (s : Session α) (e : Event) :
    Transition s e (s.step e).1 (s.entries e) := by
  cases e with
  | query params => exact .queried params
  | remove id =>
      cases hs : s.screen.stage with
      | idle =>
          simpa [entries, taken, step, ListScreen.remove, hs] using
            Transition.staged (s := s) id (by simp [hs])
      | staged other =>
          simpa [entries, taken, step, ListScreen.remove, hs] using
            Transition.staged (s := s) id (by simp [hs])
      | inFlight other =>
          simpa [entries, taken, step, ListScreen.remove, hs] using
            Transition.refused (s := s) id other hs
  | confirm =>
      cases hs : s.screen.stage with
      | idle =>
          simpa [entries, taken, step, ListScreen.confirm, hs] using
            Transition.nothingToSend (s := s) (by simp [hs])
      | staged id =>
          simpa [entries, taken, step, ListScreen.confirm, hs, await] using
            Transition.sent (s := s) id hs
      | inFlight other =>
          simpa [entries, taken, step, ListScreen.confirm, hs] using
            Transition.nothingToSend (s := s) (by simp [hs])
  | cancel =>
      cases hs : s.screen.stage with
      | idle =>
          simpa [entries, taken, step, ListScreen.cancel, hs] using
            Transition.nothingToCancel (s := s) (by simp [hs])
      | staged id =>
          simpa [entries, taken, step, ListScreen.cancel, hs] using
            Transition.cancelled (s := s) id hs
      | inFlight other =>
          simpa [entries, taken, step, ListScreen.cancel, hs] using
            Transition.nothingToCancel (s := s) (by simp [hs])
  | answerQuery call answer =>
      cases hf : s.find? call with
      | none =>
          simpa [entries, taken, step, hf] using Transition.strayPage (s := s) call answer
      | some task =>
          obtain ⟨hmem, rfl⟩ := mem_of_find? hf
          cases ha : task.awaited with
          | page ticket deleted =>
              cases deleted <;>
                simpa [entries, taken, step, hf, ha, queryAnswered, forget, pageEnding] using
                  Transition.settled (s := s) task ticket _ answer hmem ha
          | receipt id =>
              simpa [entries, taken, step, hf, ha] using
                Transition.strayPage (s := s) task.call answer
  | answerDelete call answer =>
      cases hf : s.find? call with
      | none =>
          simpa [entries, taken, step, hf] using Transition.strayReceipt (s := s) call answer
      | some task =>
          obtain ⟨hmem, rfl⟩ := mem_of_find? hf
          cases ha : task.awaited with
          | page ticket deleted =>
              simpa [entries, taken, step, hf, ha] using
                Transition.strayReceipt (s := s) task.call answer
          | receipt id =>
              cases answer with
              | error e =>
                  simpa [entries, taken, step, hf, ha, deleteAnswered, forget,
                    ListScreen.deleteFailed, emit] using
                    Transition.failed (s := s) task id e hmem ha
              | ok u =>
                  simpa [entries, taken, step, hf, ha, deleteAnswered, forget, fetch, await,
                    ListScreen.deleteDone, emit] using
                    Transition.deleted (s := s) task id hmem ha
  | drop task => exact .dropped task
  | closeUi => exact .uiClosed

/-! ## what holds of a whole run -/

/-- **Induction over a run**: what holds of a session and its log, and is kept
by every transition, holds after every run. -/
theorem run_induction {P : Session α → List Entry → Prop} {s : Session α} (start : P s [])
    (keeps : ∀ {s log e s' new}, P s log → Transition s e s' new → P s' (log ++ new))
    (es : List Event) : P (s.run es).1 (s.log es) := by
  suffices h : ∀ (s : Session α) (log : List Entry), P s log → P (s.run es).1 (log ++ s.log es) by
    simpa using h s [] start
  induction es with
  | nil => intro s log h; simpa using h
  | cons e es ih =>
      intro s log h
      rw [run_cons, log_cons, ← List.append_assoc]
      exact ih _ _ (keeps h (transition s e))

/-- Every entry of the log was added by a step of the run, behind the log of
the run up to there. -/
theorem exists_step_of_log_eq {s : Session α} {es : List Event} {before after : List Entry}
    {x : Entry} (h : s.log es = before ++ x :: after) :
    ∃ earlier e later pre post, es = earlier ++ e :: later ∧
      (s.run earlier).1.entries e = pre ++ x :: post ∧ before = s.log earlier ++ pre ∧
      after = post ++ ((s.run earlier).1.step e).1.log later := by
  induction es generalizing s before with
  | nil => simp at h
  | cons e es ih =>
      rw [log_cons, List.append_eq_append_iff] at h
      obtain ⟨rest, rfl, hrest⟩ | ⟨rest, hnew, hrest⟩ := h
      · -- the entry comes after the first step
        obtain ⟨earlier, e', later, pre, post, rfl, hnew, rfl, rfl⟩ := ih hrest
        exact ⟨e :: earlier, e', later, pre, post, rfl, hnew, by simp [log_cons], rfl⟩
      · cases rest with
        | nil =>
            rw [List.append_nil] at hnew
            have hlog : (s.step e).1.log es = [] ++ x :: after := hrest.symm
            obtain ⟨earlier, e', later, pre, post, rfl, hnew', hpre, rfl⟩ := ih hlog
            refine ⟨e :: earlier, e', later, pre, post, rfl, hnew', ?_, rfl⟩
            rw [log_cons, List.append_assoc, ← hpre, List.append_nil, hnew]
        | cons y rest =>
            obtain ⟨rfl, rfl⟩ := List.cons_eq_cons.mp hrest
            exact ⟨[], e, es, before, rest, rfl, hnew, rfl, rfl⟩

/-- The calls of a log are numbered in turn. -/
theorem calls_log (token : CsrfToken) (es : List Event) :
    ((opened token : Session α).log es).filterMap Entry.call? =
      List.range ((opened token : Session α).run es).1.calls := by
  refine run_induction (P := fun s log => log.filterMap Entry.call? = List.range s.calls)
    rfl ?_ es
  intro s log e s' new hlog t
  rw [List.filterMap_append, hlog]
  cases t <;> simp [Entry.call?, emit, List.filterMap_cons, List.range_succ]

end Session

end AlertDesk.ListScreen
