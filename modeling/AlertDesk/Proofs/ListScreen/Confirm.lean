import AlertDesk.Proofs.ListScreen.GivenUp

/-!
# AlertDesk.Proofs.ListScreen.Confirm

A confirmation from its start to its end, with anything happening in between.

A task waits until the answer to its call comes or it is given up
(`Event.Reaches`), whatever the other tasks do; by then the screen is where the
task has left it as far as its delete is concerned.  What is seen of a task is
what is seen of the steps in which it goes on (`notesOf`).  `Seen` lists what
that may be, by what the task waits for: nothing as long as it waits or if it is
given up, and otherwise the two or three notes of its end.

Main facts:

* `mem_waiting_run` — a task waits until an event reaches it;
* `quiet_of_idle` — what is seen of the tasks leaves out no call and no end of a task;
* `seen_of_waiting` — what may be seen of a task that waits;
* `confirm_course` — what a confirmation does, and what comes of each answer.
-/

namespace AlertDesk.ListScreen

/-- The event is the answer that a task waits for, or gives the task up. -/
def Event.Reaches (e : Event) (task : Task) : Prop :=
  match e, task.awaited with
  | .drop number, _ => number = task.number
  | .answerDelete call _, .receipt _ => call = task.call
  | .answerQuery call _, .page .. => call = task.call
  | _, _ => False

namespace Session

variable {α : Type}

/-! ## tasks that wait -/

/-- No two tasks that wait have one number, and the next task gets another one. -/
structure NumbersApart (s : Session α) : Prop where
  number_lt : ∀ t ∈ s.waiting, t.number < s.tasks
  number_inj : ∀ t ∈ s.waiting, ∀ t' ∈ s.waiting, t.number = t'.number → t = t'

variable {s s' : Session α} {e : Event} {new : List Entry} {task : Task} {id : String}

/-- Waiting for no more than before. -/
theorem NumbersApart.fewer (h : NumbersApart s) (htasks : s.tasks ≤ s'.tasks)
    (hwaiting : ∀ t ∈ s'.waiting, t ∈ s.waiting) : NumbersApart s' where
  number_lt := fun t ht => Nat.lt_of_lt_of_le (h.number_lt t (hwaiting t ht)) htasks
  number_inj := fun t ht t' ht' => h.number_inj t (hwaiting t ht) t' (hwaiting t' ht')

/-- A task more, with a number that nobody waits under. -/
theorem NumbersApart.more (h : NumbersApart s) (task : Task) (htasks : s.tasks ≤ s'.tasks)
    (hlt : task.number < s'.tasks) {old : List Task} (hold : ∀ t ∈ old, t ∈ s.waiting)
    (hfresh : ∀ t ∈ old, t.number ≠ task.number) (hwaiting : s'.waiting = old ++ [task]) :
    NumbersApart s' where
  number_lt := fun t ht => by
    rw [hwaiting] at ht
    obtain ht | ht := List.mem_append.mp ht
    · exact Nat.lt_of_lt_of_le (h.number_lt t (hold t ht)) htasks
    · rw [List.mem_singleton.mp ht]
      exact hlt
  number_inj := fun t ht t' ht' heq => by
    rw [hwaiting] at ht ht'
    obtain ht | ht := List.mem_append.mp ht <;> obtain ht' | ht' := List.mem_append.mp ht'
    · exact h.number_inj t (hold t ht) t' (hold t' ht') heq
    · rw [List.mem_singleton.mp ht'] at heq
      exact absurd heq (hfresh t ht)
    · rw [List.mem_singleton.mp ht] at heq
      exact absurd heq.symm (hfresh t' ht')
    · rw [List.mem_singleton.mp ht, List.mem_singleton.mp ht']

variable [Entity α]

theorem NumbersApart.keeps (h : NumbersApart s) (t : Transition s e s' new) : NumbersApart s' := by
  have hfresh : ∀ t ∈ s.waiting, t.number ≠ s.tasks := fun t ht => Nat.ne_of_lt (h.number_lt t ht)
  cases t with
  | queried params =>
      exact h.more _ (Nat.le_succ _) (Nat.lt_succ_self _) (fun t ht => ht) hfresh rfl
  | sent id stage =>
      exact h.more _ (Nat.le_succ _) (Nat.lt_succ_self _) (fun t ht => ht) hfresh rfl
  | deleted task id waits awaited =>
      refine h.more ⟨task.number, s.calls, .page (s.screen.list.issued + 1) (some id)⟩
        (Nat.le_refl _) (h.number_lt task waits) (fun t ht => (List.mem_filter.mp ht).1)
        (fun t ht heq => ?_) rfl
      obtain ⟨ht, hcall⟩ := List.mem_filter.mp ht
      obtain rfl := h.number_inj t ht task waits heq
      simp at hcall
  | nothingToSend stage => exact h.fewer (Nat.le_succ _) fun t ht => ht
  | settled | failed | dropped =>
      exact h.fewer (Nat.le_refl _) fun t ht => (List.mem_filter.mp ht).1
  | _ => exact h.fewer (Nat.le_refl _) fun t ht => ht

theorem numbersApart_run (token : CsrfToken) (es : List Event) :
    NumbersApart ((opened token : Session α).run es).1 :=
  run_induction (P := fun s _ => NumbersApart s) ⟨by simp [opened], by simp [opened]⟩
    (fun h t => h.keeps t) es

/-- A task goes on waiting if the event does not reach it. -/
theorem Transition.mem_waiting (t : Transition s e s' new) (apart : CallsApart s)
    (waits : task ∈ s.waiting) (missed : ¬ e.Reaches task) : task ∈ s'.waiting := by
  -- an answer to another task is an answer to another call
  have hother : ∀ other ∈ s.waiting, other ≠ task →
      task ∈ s.waiting.filter (·.call ≠ other.call) := by
    intro other hmem hne
    refine List.mem_filter.mpr ⟨waits, decide_eq_true fun hcall => ?_⟩
    exact hne (apart.call_inj other hmem task waits hcall.symm)
  cases t with
  | queried params => exact List.mem_append_left _ waits
  | sent id stage => exact List.mem_append_left _ waits
  | settled other ticket deleted answer hmem awaited =>
      refine hother other hmem fun heq => missed ?_
      subst heq
      simp [Event.Reaches, awaited]
  | failed other id e hmem awaited =>
      refine hother other hmem fun heq => missed ?_
      subst heq
      simp [Event.Reaches, awaited]
  | deleted other id hmem awaited =>
      refine List.mem_append_left _ (hother other hmem fun heq => missed ?_)
      subst heq
      simp [Event.Reaches, awaited]
  | dropped number =>
      refine List.mem_filter.mpr ⟨waits, decide_eq_true fun heq => missed ?_⟩
      simp [Event.Reaches, heq]
  | _ => exact waits

/-- **A task waits until an event reaches it.** -/
theorem mem_waiting_run {es : List Event} (apart : CallsApart s) (waits : task ∈ s.waiting)
    (missed : ∀ e ∈ es, ¬ e.Reaches task) :
    CallsApart (s.run es).1 ∧ task ∈ (s.run es).1.waiting := by
  induction es generalizing s with
  | nil => exact ⟨apart, waits⟩
  | cons e es ih =>
      have t := transition s e
      have hstep := t.mem_waiting apart waits (missed e List.mem_cons_self)
      rw [run_cons]
      exact ih (apart.keeps t) hstep fun e' he' => missed e' (List.mem_cons_of_mem e he')

/-! ## what is seen of a task -/

/-- The task that an event lets go on: the one that it starts, or the one that
takes the answer in. -/
def goesOn? (s : Session α) : Event → Option Nat
  | .query _ | .confirm => some s.tasks
  | .answerQuery call _ => match s.find? call with
    | some ⟨number, _, .page ..⟩ => some number
    | _ => none
  | .answerDelete call _ => match s.find? call with
    | some ⟨number, _, .receipt _⟩ => some number
    | _ => none
  | .remove _ | .cancel | .drop _ | .closeUi => none

/-- What is seen of a task in a run: the notes of the steps in which it goes on. -/
def notesOf (s : Session α) (number : Nat) : List Event → List Note
  | [] => []
  | e :: es =>
    (if s.goesOn? e = some number then (s.step e).2 else []) ++ notesOf (s.step e).1 number es

/-- A step in which no task goes on makes no call and ends no task. -/
theorem quiet_of_idle (h : s.goesOn? e = none) :
    (s.step e).2.filterMap Note.call? = [] ∧ (s.step e).2.filterMap Note.finished? = [] := by
  cases e with
  | query | confirm => simp [goesOn?] at h
  | remove id =>
      simp only [step]
      split <;> exact ⟨rfl, rfl⟩
  | cancel =>
      simp only [step]
      split <;> exact ⟨rfl, rfl⟩
  | answerQuery call answer =>
      simp only [step]
      cases hf : s.find? call with
      | none => exact ⟨rfl, rfl⟩
      | some task =>
          cases awaited : task.awaited with
          | receipt id => simp [awaited]
          | page ticket deleted =>
              obtain ⟨number, call', _⟩ := task
              obtain rfl := awaited
              simp [goesOn?, hf] at h
  | answerDelete call answer =>
      simp only [step]
      cases hf : s.find? call with
      | none => exact ⟨rfl, rfl⟩
      | some task =>
          cases awaited : task.awaited with
          | page ticket deleted => simp [awaited]
          | receipt id =>
              obtain ⟨number, call', _⟩ := task
              obtain rfl := awaited
              simp [goesOn?, hf] at h
  | drop | closeUi => exact ⟨rfl, rfl⟩

/-- What may be seen of a task from the time on at which it waits: nothing while
it waits or if it is given up, and otherwise how it ends.  A delete that goes
through makes a confirmation wait once more. -/
inductive Seen (kind : Kind) (number : Nat) : Awaited → List Note → Prop where
  | silent (awaited : Awaited) : Seen kind number awaited []
  | shown (ticket : Nat) (outcome : Settled) :
      Seen kind number (.page ticket none) [.finished number (.query outcome)]
  | refreshed (ticket : Nat) (id : String) :
      Seen kind number (.page ticket (some id)) [.finished number (.confirmed (some id))]
  | failed (id : String) (delivered : Bool) (e : PortalError) :
      Seen kind number (.receipt id)
        [.emitted (.requestConfirmation id) delivered, .finished number (.confirmFailed e)]
  | deleted (id : String) (delivered : Bool) (call : Nat) (query : ListQuery) {ticket : Nat}
      {rest : List Note} (refresh : Seen kind number (.page ticket (some id)) rest) :
      Seen kind number (.receipt id)
        (.emitted .closeConfirmation delivered :: .called call (.query kind query) :: rest)

omit [Entity α] in
/-- Only a new task goes on, or one that the event reaches. -/
theorem goesOn?_eq_some {number : Nat} (h : s.goesOn? e = some number) :
    number = s.tasks ∨ ∃ t ∈ s.waiting, t.number = number ∧ e.Reaches t := by
  cases e with
  | query params => exact .inl (Option.some.inj h).symm
  | confirm => exact .inl (Option.some.inj h).symm
  | answerQuery call answer =>
      simp only [goesOn?] at h
      split at h
      · next n c ticket deleted hf =>
          obtain ⟨hmem, hcall⟩ := mem_of_find? hf
          exact .inr ⟨_, hmem, Option.some.inj h, hcall.symm⟩
      · contradiction
  | answerDelete call answer =>
      simp only [goesOn?] at h
      split at h
      · next n c id hf =>
          obtain ⟨hmem, hcall⟩ := mem_of_find? hf
          exact .inr ⟨_, hmem, Option.some.inj h, hcall.symm⟩
      · contradiction
  | remove | cancel | drop | closeUi => contradiction

/-- Nobody waits under a number that was given out. -/
def Gone (s : Session α) (number : Nat) : Prop :=
  number < s.tasks ∧ ∀ t ∈ s.waiting, t.number ≠ number

theorem Gone.keeps {number : Nat} (h : s.Gone number) (t : Transition s e s' new) :
    s'.Gone number := by
  obtain ⟨hlt, hnone⟩ := h
  have hnext : s.tasks ≠ number := Nat.ne_of_gt hlt
  cases t with
  | queried params =>
      refine ⟨Nat.lt_succ_of_lt hlt, fun t ht => ?_⟩
      obtain ht | ht := List.mem_append.mp ht
      · exact hnone t ht
      · rwa [List.mem_singleton.mp ht]
  | sent id stage =>
      refine ⟨Nat.lt_succ_of_lt hlt, fun t ht => ?_⟩
      obtain ht | ht := List.mem_append.mp ht
      · exact hnone t ht
      · rwa [List.mem_singleton.mp ht]
  | deleted task id waits awaited =>
      refine ⟨hlt, fun t ht => ?_⟩
      obtain ht | ht := List.mem_append.mp ht
      · exact hnone t (List.mem_filter.mp ht).1
      · rw [List.mem_singleton.mp ht]
        exact hnone task waits
  | nothingToSend stage => exact ⟨Nat.lt_succ_of_lt hlt, hnone⟩
  | settled | failed | dropped => exact ⟨hlt, fun t ht => hnone t (List.mem_filter.mp ht).1⟩
  | _ => exact ⟨hlt, hnone⟩

/-- Nothing more is seen of a task that does not wait any more. -/
theorem Gone.notesOf_eq {number : Nat} (h : s.Gone number) (es : List Event) :
    s.notesOf number es = [] := by
  induction es generalizing s with
  | nil => rfl
  | cons e es ih =>
      have hidle : s.goesOn? e ≠ some number := fun hgoes => by
        obtain rfl | ⟨t, ht, hnumber, -⟩ := goesOn?_eq_some hgoes
        · exact Nat.lt_irrefl _ h.1
        · exact h.2 t ht hnumber
      rw [notesOf, if_neg hidle, List.nil_append]
      exact ih (h.keeps (transition s e))

omit [Entity α] in
/-- A task that is taken out of those that wait is gone. -/
theorem gone_of_forgotten (numbers : NumbersApart s) (waits : task ∈ s.waiting)
    (htasks : s'.tasks = s.tasks) (hsub : ∀ t ∈ s'.waiting, t ∈ s.waiting ∧ t ≠ task) :
    s'.Gone task.number := by
  refine ⟨htasks ▸ numbers.number_lt task waits, fun t ht heq => ?_⟩
  obtain ⟨hmem, hne⟩ := hsub t ht
  exact hne (numbers.number_inj t hmem task waits heq)

/-! ### the steps in which a task goes on -/

theorem step_page (apart : CallsApart s) (waits : task ∈ s.waiting) {ticket : Nat}
    {deleted : Option String} (awaited : task.awaited = .page ticket deleted)
    (answer : Except PortalError QueryResponse) :
    s.step (.answerQuery task.call answer) =
      ({ s.forget task.call with
          screen := { s.screen with
            list := (s.screen.list.settle ticket (Page.ofAnswer answer)).1 } },
        [.finished task.number
          (pageEnding deleted (s.screen.list.settle ticket (Page.ofAnswer answer)).2)]) := by
  cases deleted <;> simp only [step, apart.find?_eq waits, awaited, queryAnswered, pageEnding]

theorem step_receipt_error (apart : CallsApart s) (waits : task ∈ s.waiting)
    (awaited : task.awaited = .receipt id) (e : PortalError) :
    s.step (.answerDelete task.call (.error e)) =
      ({ s.forget task.call with
          screen := { s.screen with stage := .staged id, deleteError := some e } },
        [s.emit (.requestConfirmation id), .finished task.number (.confirmFailed e)]) := by
  simp only [step, apart.find?_eq waits, awaited, deleteAnswered]
  rfl

theorem step_receipt_ok (apart : CallsApart s) (waits : task ∈ s.waiting)
    (awaited : task.awaited = .receipt id) :
    s.step (.answerDelete task.call (.ok ())) =
      ({ s with
          screen := { list := s.screen.list.begin none, stage := .idle, deleteError := none }
          waiting := (s.forget task.call).waiting ++
            [⟨task.number, s.calls, .page (s.screen.list.issued + 1) (some id)⟩]
          calls := s.calls + 1 },
        [s.emit .closeConfirmation,
          .called s.calls (.query (Entity.kind α) s.screen.list.view.query)]) := by
  simp only [step, apart.find?_eq waits, awaited, deleteAnswered]
  rfl

omit [Entity α] in
theorem goesOn?_page (apart : CallsApart s) (waits : task ∈ s.waiting) {ticket : Nat}
    {deleted : Option String} (awaited : task.awaited = .page ticket deleted)
    (answer : Except PortalError QueryResponse) :
    s.goesOn? (.answerQuery task.call answer) = some task.number := by
  obtain ⟨number, call, _⟩ := task
  obtain rfl := awaited
  simp [goesOn?, apart.find?_eq waits]

omit [Entity α] in
theorem goesOn?_receipt (apart : CallsApart s) (waits : task ∈ s.waiting)
    (awaited : task.awaited = .receipt id) (answer : Except PortalError Unit) :
    s.goesOn? (.answerDelete task.call answer) = some task.number := by
  obtain ⟨number, call, _⟩ := task
  obtain rfl := awaited
  simp [goesOn?, apart.find?_eq waits]

omit [Entity α] in
/-- Once a call is forgotten, the task that waited for it does not wait. -/
theorem mem_forget {t : Task} {call : Nat} (h : t ∈ (s.forget call).waiting) :
    t ∈ s.waiting ∧ t.call ≠ call := by
  simpa [forget] using h

omit [Entity α] in
/-- A task whose call is answered is gone, unless it makes another one. -/
theorem gone_of_answered (numbers : NumbersApart s) (waits : task ∈ s.waiting)
    (htasks : s'.tasks = s.tasks) (hwaiting : s'.waiting = (s.forget task.call).waiting) :
    s'.Gone task.number := by
  refine gone_of_forgotten numbers waits htasks fun t ht => ?_
  obtain ⟨hmem, hcall⟩ := mem_forget (hwaiting ▸ ht)
  exact ⟨hmem, fun heq => hcall (heq ▸ rfl)⟩

/-! ### what is seen of the task that an event reaches -/

theorem notesOf_drop (numbers : NumbersApart s) (waits : task ∈ s.waiting) (es : List Event) :
    s.notesOf task.number (.drop task.number :: es) = [] := by
  have hgone : (s.step (.drop task.number)).1.Gone task.number := by
    refine gone_of_forgotten numbers waits rfl fun t ht => ?_
    obtain ⟨hmem, hne⟩ := List.mem_filter.mp ht
    exact ⟨hmem, fun heq => by simp [heq] at hne⟩
  rw [notesOf, hgone.notesOf_eq]
  rfl

theorem notesOf_page (calls : CallsApart s) (numbers : NumbersApart s) (waits : task ∈ s.waiting)
    {ticket : Nat} {deleted : Option String} (awaited : task.awaited = .page ticket deleted)
    (answer : Except PortalError QueryResponse) (es : List Event) :
    s.notesOf task.number (.answerQuery task.call answer :: es) =
      [.finished task.number
        (pageEnding deleted (s.screen.list.settle ticket (Page.ofAnswer answer)).2)] := by
  have hstep := step_page calls waits awaited answer
  have hgone : (s.step (.answerQuery task.call answer)).1.Gone task.number :=
    gone_of_answered numbers waits (by rw [hstep]; rfl) (by rw [hstep])
  rw [notesOf, if_pos (goesOn?_page calls waits awaited answer), hgone.notesOf_eq,
    List.append_nil, hstep]

theorem notesOf_receipt_error (calls : CallsApart s) (numbers : NumbersApart s)
    (waits : task ∈ s.waiting) (awaited : task.awaited = .receipt id) (e : PortalError)
    (es : List Event) :
    s.notesOf task.number (.answerDelete task.call (.error e) :: es) =
      [s.emit (.requestConfirmation id), .finished task.number (.confirmFailed e)] := by
  have hstep := step_receipt_error calls waits awaited e
  have hgone : (s.step (.answerDelete task.call (.error e))).1.Gone task.number :=
    gone_of_answered numbers waits (by rw [hstep]; rfl) (by rw [hstep])
  rw [notesOf, if_pos (goesOn?_receipt calls waits awaited _), hgone.notesOf_eq,
    List.append_nil, hstep]

/-- The confirmation of a delete that went through waits for the refresh of the list. -/
theorem waits_refresh (calls : CallsApart s) (waits : task ∈ s.waiting)
    (awaited : task.awaited = .receipt id) :
    ⟨task.number, s.calls, .page (s.screen.list.issued + 1) (some id)⟩ ∈
      (s.step (.answerDelete task.call (.ok ()))).1.waiting := by
  rw [step_receipt_ok calls waits awaited]
  exact List.mem_append_right _ (List.mem_singleton.mpr rfl)

/-- **What may be seen of a task that waits.** -/
theorem seen_of_waiting (calls : CallsApart s) (numbers : NumbersApart s)
    (waits : task ∈ s.waiting) (es : List Event) :
    Seen (Entity.kind α) task.number task.awaited (s.notesOf task.number es) := by
  induction es generalizing s task with
  | nil => exact .silent _
  | cons e es ih =>
      have t := transition s e
      by_cases hreach : e.Reaches task
      · cases e with
        | drop number =>
            obtain rfl : number = task.number := hreach
            rw [notesOf_drop numbers waits]
            exact .silent _
        | answerQuery call answer =>
            cases awaited : task.awaited with
            | receipt id => simp [Event.Reaches, awaited] at hreach
            | page ticket deleted =>
                obtain rfl : call = task.call := by simpa [Event.Reaches, awaited] using hreach
                rw [notesOf_page calls numbers waits awaited]
                cases deleted with
                | none => exact .shown ..
                | some id => exact .refreshed ..
        | answerDelete call answer =>
            cases awaited : task.awaited with
            | page ticket deleted => simp [Event.Reaches, awaited] at hreach
            | receipt id =>
                obtain rfl : call = task.call := by simpa [Event.Reaches, awaited] using hreach
                cases answer with
                | error e =>
                    rw [notesOf_receipt_error calls numbers waits awaited]
                    exact .failed ..
                | ok =>
                    have refresh := ih (calls.keeps t) (numbers.keeps t)
                      (waits_refresh calls waits awaited)
                    rw [notesOf, if_pos (goesOn?_receipt calls waits awaited _)]
                    rw [step_receipt_ok calls waits awaited] at refresh ⊢
                    exact .deleted _ _ _ _ refresh
        | query | remove | confirm | cancel | closeUi => contradiction
      · have hidle : s.goesOn? e ≠ some task.number := fun hgoes => by
          obtain hnew | ⟨t, ht, hnumber, hreached⟩ := goesOn?_eq_some hgoes
          · exact Nat.ne_of_lt (numbers.number_lt task waits) hnew
          · exact hreach (numbers.number_inj t ht task waits hnumber ▸ hreached)
        rw [notesOf, if_neg hidle, List.nil_append]
        exact ih (calls.keeps t) (numbers.keeps t) (t.mem_waiting calls waits hreach)

/-! ## a confirmation -/

theorem token_run (token : CsrfToken) (es : List Event) :
    ((opened token : Session α).run es).1.token = token :=
  run_induction (P := fun s _ => s.token = token) rfl (fun h t => by cases t <;> exact h) es

/-- A confirmation of the staged record sends its delete, and waits. -/
theorem step_confirm (stage : s.screen.stage = .staged id) :
    s.step .confirm =
      ({ s with
          screen := { s.screen with stage := .inFlight id }
          waiting := s.waiting ++ [⟨s.tasks, s.calls, .receipt id⟩]
          tasks := s.tasks + 1
          calls := s.calls + 1 },
        [.called s.calls (.delete (Entity.kind α) id s.token)]) := by
  simp only [step, ListScreen.confirm, stage, await]

/-- Without a staged record there is nothing to confirm. -/
theorem step_confirm_of_not_staged (stage : ∀ id, s.screen.stage ≠ .staged id) :
    s.step .confirm = ({ s with tasks := s.tasks + 1 }, [.finished s.tasks (.confirmed none)]) := by
  cases hs : s.screen.stage with
  | staged id => exact absurd hs (stage id)
  | idle => simp only [step, ListScreen.confirm, hs]
  | inFlight id => simp only [step, ListScreen.confirm, hs]

/-- What comes of the answers to a confirmation that waits for the receipt of
the delete of `id`. -/
structure Decided (s : Session α) (number call : Nat) (id : String) : Prop where
  stage : s.screen.stage = .inFlight id
  /-- A failure stages the record again, with the error, asks for it again, and
  is how the confirmation ends.  The list stays. -/
  fails : ∀ e, s.step (.answerDelete call (.error e)) =
    ({ s.forget call with
        screen := { s.screen with stage := .staged id, deleteError := some e } },
      [s.emit (.requestConfirmation id), .finished number (.confirmFailed e)])
  /-- A success clears the stage, closes the dialogue and queries the list anew,
  with the parameters that it has. -/
  goesThrough : s.step (.answerDelete call (.ok ())) =
    ({ s with
        screen := { list := s.screen.list.begin none, stage := .idle, deleteError := none }
        waiting := (s.forget call).waiting ++
          [⟨number, s.calls, .page (s.screen.list.issued + 1) (some id)⟩]
        calls := s.calls + 1 },
      [s.emit .closeConfirmation,
        .called s.calls (.query (Entity.kind α) s.screen.list.view.query)])
  /-- However late the answer to that query comes, and whatever it is, the list
  takes it in as any other, and the confirmation ends with the record. -/
  refreshed : ∀ behind,
    (∀ e ∈ behind, ¬ e.Reaches ⟨number, s.calls, .page (s.screen.list.issued + 1) (some id)⟩) →
      ∀ answer,
        let s₁ := ((s.step (.answerDelete call (.ok ()))).1.run behind).1
        s₁.step (.answerQuery s.calls answer) =
          ({ s₁.forget s.calls with
              screen := { s₁.screen with
                list := (s₁.screen.list.settle (s.screen.list.issued + 1)
                  (Page.ofAnswer answer)).1 } },
            [.finished number (.confirmed (some id))])

theorem decided_of_waiting {log : List Entry} (calls : CallsApart s) (tracked : DeleteTracked s log)
    (waits : task ∈ s.waiting) (awaited : task.awaited = .receipt id) :
    Decided s task.number task.call id where
  stage := (tracked.open_eq waits awaited).1
  fails := step_receipt_error calls waits awaited
  goesThrough := step_receipt_ok calls waits awaited
  refreshed := fun behind missed answer => by
    have apart := calls.keeps (transition s (.answerDelete task.call (.ok ())))
    obtain ⟨apart, waits⟩ := mem_waiting_run apart (waits_refresh calls waits awaited) missed
    exact step_page apart waits rfl answer

/-- A confirmation that starts while `id` is staged. -/
structure Confirmation (s : Session α) (id : String) : Prop where
  /-- It sends one delete, and nothing else is seen of its start. -/
  sent : s.step .confirm =
    ({ s with
        screen := { s.screen with stage := .inFlight id }
        waiting := s.waiting ++ [⟨s.tasks, s.calls, .receipt id⟩]
        tasks := s.tasks + 1
        calls := s.calls + 1 },
      [.called s.calls (.delete (Entity.kind α) id s.token)])
  /-- What is seen of it, whatever comes later. -/
  seen : ∀ later, ∃ rest, Seen (Entity.kind α) s.tasks (.receipt id) rest ∧
    s.notesOf s.tasks (.confirm :: later) =
      .called s.calls (.delete (Entity.kind α) id s.token) :: rest
  /-- As long as nothing reaches it, the answer to the delete decides. -/
  decided : ∀ between, (∀ e ∈ between, ¬ e.Reaches ⟨s.tasks, s.calls, .receipt id⟩) →
    Decided ((s.step .confirm).1.run between).1 s.tasks s.calls id

/-- **The course of a confirmation.**  After every run of a list screen, a
confirmation of the staged record sends one delete for it, with the token of the
session.  If that fails, whenever the answer comes, the record is staged again
and asked for again, and the confirmation ends with the error; if it goes
through, the dialogue is closed and the list queried once, with the parameters
it has, and whatever becomes of that query the confirmation ends with the
record.  Without a staged record it ends at once and nothing happens. -/
theorem confirm_course (token : CsrfToken) (es : List Event) :
    let s := ((opened token : Session α).run es).1
    s.token = token ∧
    (∀ id, s.screen.stage = .staged id → Confirmation s id) ∧
    ((∀ id, s.screen.stage ≠ .staged id) →
      s.step .confirm =
        ({ s with tasks := s.tasks + 1 }, [.finished s.tasks (.confirmed none)])) := by
  intro s
  refine ⟨token_run token es, fun id stage => ?_, step_confirm_of_not_staged⟩
  have hsent := step_confirm stage
  have t := transition s .confirm
  have calls := (callsApart_run token es).keeps t
  have numbers := (numbersApart_run token es).keeps t
  have hmem : ⟨s.tasks, s.calls, .receipt id⟩ ∈ (s.step .confirm).1.waiting := by
    rw [hsent]
    exact List.mem_append_right _ (List.mem_singleton.mpr rfl)
  refine ⟨hsent, fun later => ?_, fun between missed => ?_⟩
  · refine ⟨_, seen_of_waiting calls numbers hmem later, ?_⟩
    have hgoes : s.goesOn? .confirm = some s.tasks := rfl
    rw [notesOf, if_pos hgoes, hsent]
    rfl
  · obtain ⟨apart, waits⟩ := mem_waiting_run calls hmem missed
    have hrun : ((s.step .confirm).1.run between).1 =
        ((opened token : Session α).run (es ++ .confirm :: between)).1 := by
      rw [run_append, run_cons]
    have tracked := deleteTracked_run (α := α) token (es ++ .confirm :: between)
    rw [← hrun] at tracked
    exact decided_of_waiting apart tracked waits rfl

/-- The delete is answered behind a query that fails, and its refresh is
overtaken by a query of the user and fails as well. -/
theorem confirm_course_overtaken :
    let start : Session Alert := opened ⟨"t"⟩
    let s := (start.run [.query (some (.ofPage 3)), .remove "a"]).1
    let s₁ := ((s.step .confirm).1.run [.answerQuery 0 (.error (.network "down")), .cancel]).1
    let s₂ := ((s₁.step (.answerDelete 1 (.ok ()))).1.run [.query none]).1
    s.screen.stage = .staged "a" ∧ Confirmation s "a" ∧
      (s₁.step (.answerDelete 1 (.error (.server 500 "")))).1.screen.list = s₁.screen.list ∧
      (s₁.step (.answerDelete 1 (.ok ()))).2 =
        [.emitted .closeConfirmation true, .called 2 (.query .alert (.ofPage 3))] ∧
      s₂.step (.answerQuery 2 (.error (.network "down"))) =
        (s₂.forget 2, [.finished 1 (.confirmed (some "a"))]) ∧
      start.step .confirm = ({ start with tasks := 1 }, [.finished 0 (.confirmed none)]) := by
  intro start s s₁ s₂
  have stage : s.screen.stage = .staged "a" := rfl
  let es : List Event := [.query (some (.ofPage 3)), .remove "a"]
  have h := (confirm_course (α := Alert) ⟨"t"⟩ es).2.1 "a" stage
  have hdecided := h.decided [.answerQuery 0 (.error (.network "down")), .cancel]
    (by simp [Event.Reaches])
  have hrefreshed := hdecided.refreshed [.query none] (by simp [Event.Reaches])
    (.error (.network "down"))
  have hfails := hdecided.fails (.server 500 "")
  refine ⟨stage, h, ?_, ?_, hrefreshed, ?_⟩
  · exact congrArg (·.1.screen.list) hfails
  · exact congrArg Prod.snd hdecided.goesThrough
  · exact (confirm_course (α := Alert) ⟨"t"⟩ []).2.2 fun id hs => by cases hs

end Session

end AlertDesk.ListScreen
