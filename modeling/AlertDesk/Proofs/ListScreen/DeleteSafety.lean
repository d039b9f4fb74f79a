import AlertDesk.Proofs.ListScreen.Log
import AlertDesk.Record.Alert

/-!
# AlertDesk.Proofs.ListScreen.DeleteSafety

Deletes over a whole session.  `DeleteTracked` ties the stage of the screen to
the log: a delete call is open, that is sent and not answered, exactly while
the stage says so, a staged record is the one the user was asked about last,
and every task that waits for a receipt waits for the open call.  It is kept
by every transition, most of which are quiet: they send no delete, take in no
receipt and tell the user interface nothing.

Main fact: `delete_safety` — at most one delete is open, each was asked for,
and while one is open no other can be staged or sent.
-/

namespace AlertDesk.ListScreen

/-! ## open deletes, and what the user was asked -/

/-- The delete calls of a log that are not answered in it: their numbers, and
the records they are for. -/
def openDeletes (log : List Entry) : List (Nat × String) :=
  (log.filterMap Entry.delete?).filter fun d => d.1 ∉ log.filterMap Entry.receipt?

/-- The last command to the user interface was to ask about the record, and no
delete has been sent since. -/
def JustAsked (log : List Entry) (id : String) : Prop :=
  ∃ earlier delivered later,
    log = earlier ++ .note (.emitted (.requestConfirmation id) delivered) :: later ∧
      ∀ x ∈ later, x.command? = none ∧ x.delete? = none

/-- An entry that is no command, no delete and no receipt. -/
def Entry.Quiet (x : Entry) : Prop := x.command? = none ∧ x.delete? = none ∧ x.receipt? = none

variable {log new : List Entry} {n : Nat} {id : String}

theorem openDeletes_append_quiet (h : ∀ x ∈ new, x.Quiet) :
    openDeletes (log ++ new) = openDeletes log := by
  have hd : new.filterMap Entry.delete? = [] :=
    List.filterMap_eq_nil_iff.mpr fun x hx => (h x hx).2.1
  have hr : new.filterMap Entry.receipt? = [] :=
    List.filterMap_eq_nil_iff.mpr fun x hx => (h x hx).2.2
  simp [openDeletes, hd, hr]

/-- A delete call under a number that has not been answered is open. -/
theorem openDeletes_append_delete (hd : new.filterMap Entry.delete? = [(n, id)])
    (hr : new.filterMap Entry.receipt? = []) (hn : n ∉ log.filterMap Entry.receipt?) :
    openDeletes (log ++ new) = openDeletes log ++ [(n, id)] := by
  simp [openDeletes, hd, hr, List.filter_cons] at hn ⊢
  exact hn

/-- A receipt closes the call it answers. -/
theorem openDeletes_append_receipt (hd : new.filterMap Entry.delete? = [])
    (hr : new.filterMap Entry.receipt? = [n]) :
    openDeletes (log ++ new) = (openDeletes log).filter (·.1 ≠ n) := by
  simp only [openDeletes, List.filterMap_append, hd, hr, List.append_nil, List.filter_filter]
  congr 1
  funext d
  simp only [List.mem_append, List.mem_singleton, not_or, Bool.decide_and]
  rw [Bool.and_comm]

theorem JustAsked.append (h : JustAsked log id)
    (hnew : ∀ x ∈ new, x.command? = none ∧ x.delete? = none) : JustAsked (log ++ new) id := by
  obtain ⟨earlier, delivered, later, rfl, hlater⟩ := h
  refine ⟨earlier, delivered, later ++ new, by simp, fun x hx => ?_⟩
  obtain hx | hx := List.mem_append.mp hx
  · exact hlater x hx
  · exact hnew x hx

/-- Behind the command to ask about a record, followed by quiet entries, the
user was just asked about it. -/
theorem justAsked_append_cons {delivered : Bool} {later : List Entry}
    (hlater : ∀ x ∈ later, x.command? = none ∧ x.delete? = none) :
    JustAsked (log ++ .note (.emitted (.requestConfirmation id) delivered) :: later) id :=
  ⟨log, delivered, later, rfl, hlater⟩

/-- A log has one last command and one part behind it. -/
theorem last_command_inj {earlier later earlier' later' : List Entry} {x y : Entry}
    (h : earlier ++ x :: later = earlier' ++ y :: later')
    (hx : x.command?.isSome) (hlater : ∀ z ∈ later, z.command? = none)
    (hy : y.command?.isSome) (hlater' : ∀ z ∈ later', z.command? = none) :
    x = y ∧ later = later' := by
  obtain ⟨rest, rfl, hrest⟩ | ⟨rest, rfl, hrest⟩ := List.append_eq_append_iff.mp h
  · cases rest with
    | nil => simpa using hrest
    | cons z rest =>
        obtain ⟨-, rfl⟩ := List.cons_eq_cons.mp hrest
        simp [hlater y (by simp)] at hy
  · cases rest with
    | nil => simpa [eq_comm] using hrest
    | cons z rest =>
        obtain ⟨-, rfl⟩ := List.cons_eq_cons.mp hrest
        simp [hlater' x (by simp)] at hx

/-- The request that the user was just asked with is the last command there
is, and no delete follows it. -/
theorem JustAsked.of_last {earlier later : List Entry} {other : String} {delivered : Bool}
    (h : JustAsked (earlier ++ .note (.emitted (.requestConfirmation other) delivered) :: later) id)
    (hlater : ∀ x ∈ later, x.command? = none) :
    other = id ∧ ∀ x ∈ later, x.delete? = none := by
  obtain ⟨earlier', delivered', later', heq, hlater'⟩ := h
  obtain ⟨hx, rfl⟩ := last_command_inj heq rfl hlater rfl fun x hx => (hlater' x hx).1
  simp only [Entry.note.injEq, Note.emitted.injEq, UiCommand.requestConfirmation.injEq] at hx
  exact ⟨hx.1, fun x hx => (hlater' x hx).2⟩

theorem Entry.eq_of_delete? {x : Entry} (h : x.delete? = some (n, id)) :
    ∃ kind token, x = .note (.called n (.delete kind id token)) := by
  unfold Entry.delete? at h
  split at h
  · simp only [Option.some.injEq, Prod.mk.injEq] at h
    obtain ⟨rfl, rfl⟩ := h
    exact ⟨_, _, rfl⟩
  · contradiction

/-! ## the invariant -/

namespace Session

variable {α : Type} {s s' : Session α} {e : Event}

/-- How a session agrees with its log about deletes. -/
structure DeleteTracked (s : Session α) (log : List Entry) : Prop where
  /-- Deletes are sent under numbers that have been given out. -/
  sent_lt : ∀ d ∈ log.filterMap Entry.delete?, d.1 < s.calls
  /-- Only what has been sent is answered. -/
  receipt_lt : ∀ n ∈ log.filterMap Entry.receipt?, n < s.calls
  /-- Whoever waits for a receipt waits for that of an open delete. -/
  waiting_open : ∀ t ∈ s.waiting, ∀ id, t.awaited = .receipt id → (t.call, id) ∈ openDeletes log
  /-- Exactly one delete is open, for the record of the stage, while one is in flight. -/
  inFlight_open : ∀ id, s.screen.stage = .inFlight id → ∃ n, openDeletes log = [(n, id)]
  /-- At any other time none is. -/
  rest_open : (∀ id, s.screen.stage ≠ .inFlight id) → openDeletes log = []
  /-- A staged record is the one the user was asked about. -/
  staged_asked : ∀ id, s.screen.stage = .staged id → JustAsked log id

theorem deleteTracked_opened (token : CsrfToken) :
    DeleteTracked (opened token : Session α) [] where
  sent_lt := by simp
  receipt_lt := by simp
  waiting_open := by simp [opened]
  inFlight_open := by simp [opened]
  rest_open := by simp [openDeletes]
  staged_asked := by simp [opened]

/-- A step that adds nothing but quiet entries, leaves the stage as it is and
lets no other task wait for a receipt. -/
theorem DeleteTracked.quiet (h : DeleteTracked s log) (hnew : ∀ x ∈ new, x.Quiet)
    (hcalls : s.calls ≤ s'.calls) (hstage : s'.screen.stage = s.screen.stage)
    (hwaiting : ∀ t ∈ s'.waiting, ∀ id, t.awaited = .receipt id → t ∈ s.waiting) :
    DeleteTracked s' (log ++ new) where
  sent_lt := by
    have hd : new.filterMap Entry.delete? = [] :=
      List.filterMap_eq_nil_iff.mpr fun x hx => (hnew x hx).2.1
    rw [List.filterMap_append, hd, List.append_nil]
    exact fun d hd => Nat.lt_of_lt_of_le (h.sent_lt d hd) hcalls
  receipt_lt := by
    have hr : new.filterMap Entry.receipt? = [] :=
      List.filterMap_eq_nil_iff.mpr fun x hx => (hnew x hx).2.2
    rw [List.filterMap_append, hr, List.append_nil]
    exact fun n hn => Nat.lt_of_lt_of_le (h.receipt_lt n hn) hcalls
  waiting_open := by
    rw [openDeletes_append_quiet hnew]
    exact fun t ht id ha => h.waiting_open t (hwaiting t ht id ha) id ha
  inFlight_open := by
    rw [openDeletes_append_quiet hnew, hstage]
    exact h.inFlight_open
  rest_open := by
    rw [openDeletes_append_quiet hnew, hstage]
    exact h.rest_open
  staged_asked := by
    rw [hstage]
    exact fun id hs => (h.staged_asked id hs).append fun x hx => ⟨(hnew x hx).1, (hnew x hx).2.1⟩

/-- An open delete is the only one, and it is in flight. -/
theorem DeleteTracked.eq_of_mem (h : DeleteTracked s log) (hmem : (n, id) ∈ openDeletes log) :
    s.screen.stage = .inFlight id ∧ openDeletes log = [(n, id)] := by
  by_cases hs : ∃ other, s.screen.stage = .inFlight other
  · obtain ⟨other, hs⟩ := hs
    obtain ⟨m, hm⟩ := h.inFlight_open other hs
    rw [hm, List.mem_singleton, Prod.mk.injEq] at hmem
    rw [hs, hm, hmem.1, hmem.2]
    exact ⟨rfl, rfl⟩
  · rw [h.rest_open fun other ho => hs ⟨other, ho⟩] at hmem
    exact absurd hmem List.not_mem_nil

theorem DeleteTracked.length_openDeletes_le (h : DeleteTracked s log) :
    (openDeletes log).length ≤ 1 := by
  cases hopen : openDeletes log with
  | nil => simp
  | cons d ds =>
      have hmem : (d.1, d.2) ∈ openDeletes log := by simp [hopen]
      rw [← hopen, (h.eq_of_mem hmem).2]
      simp

/-- A task that waits for a receipt waits for the only open delete, which is in flight. -/
theorem DeleteTracked.open_eq (h : DeleteTracked s log) {task : Task} (waits : task ∈ s.waiting)
    (awaited : task.awaited = .receipt id) :
    s.screen.stage = .inFlight id ∧ openDeletes log = [(task.call, id)] :=
  h.eq_of_mem (h.waiting_open task waits id awaited)

/-- While no delete is in flight nobody waits for a receipt. -/
theorem DeleteTracked.not_waiting (h : DeleteTracked s log)
    (hstage : ∀ id, s.screen.stage ≠ .inFlight id) :
    ∀ t ∈ s.waiting, ∀ id, t.awaited ≠ .receipt id :=
  fun _ ht id ha => hstage id (h.open_eq ht ha).1

/-- A step behind which no delete is open or in flight. -/
theorem DeleteTracked.rest (h : DeleteTracked s log) (hd : new.filterMap Entry.delete? = [])
    (hopen : openDeletes (log ++ new) = [])
    (hreceipt : ∀ n ∈ new.filterMap Entry.receipt?, n < s.calls) (hcalls : s.calls ≤ s'.calls)
    (hwaiting : ∀ t ∈ s'.waiting, ∀ id, t.awaited ≠ .receipt id)
    (hstage : ∀ id, s'.screen.stage ≠ .inFlight id)
    (hasked : ∀ id, s'.screen.stage = .staged id → JustAsked (log ++ new) id) :
    DeleteTracked s' (log ++ new) where
  sent_lt := by
    rw [List.filterMap_append, hd, List.append_nil]
    exact fun d hd => Nat.lt_of_lt_of_le (h.sent_lt d hd) hcalls
  receipt_lt := fun n hn => by
    rw [List.filterMap_append] at hn
    obtain hn | hn := List.mem_append.mp hn
    · exact Nat.lt_of_lt_of_le (h.receipt_lt n hn) hcalls
    · exact Nat.lt_of_lt_of_le (hreceipt n hn) hcalls
  waiting_open := fun t ht id ha => absurd ha (hwaiting t ht id)
  inFlight_open := fun id hs => absurd hs (hstage id)
  rest_open := fun _ => hopen
  staged_asked := hasked

/-- A receipt that a task takes in closes the only open delete. -/
theorem DeleteTracked.closed (h : DeleteTracked s log) {task : Task} (waits : task ∈ s.waiting)
    (awaited : task.awaited = .receipt id) (hd : new.filterMap Entry.delete? = [])
    (hr : new.filterMap Entry.receipt? = [task.call]) : openDeletes (log ++ new) = [] := by
  rw [openDeletes_append_receipt hd hr, (h.open_eq waits awaited).2]
  simp

/-- The call of a receipt was sent before. -/
theorem DeleteTracked.call_lt (h : DeleteTracked s log) {task : Task} (waits : task ∈ s.waiting)
    (awaited : task.awaited = .receipt id) : task.call < s.calls := by
  have hmem : (task.call, id) ∈ openDeletes log := by simp [(h.open_eq waits awaited).2]
  exact h.sent_lt _ (List.mem_filter.mp hmem).1

/-- Once a receipt is taken in, nobody waits for another. -/
theorem DeleteTracked.not_waiting_forget (h : DeleteTracked s log) {task : Task}
    (waits : task ∈ s.waiting) (awaited : task.awaited = .receipt id) :
    ∀ t ∈ s.waiting.filter (·.call ≠ task.call), ∀ other, t.awaited ≠ .receipt other := by
  intro t ht other ha
  obtain ⟨ht, hne⟩ := List.mem_filter.mp ht
  have hmem := h.waiting_open t ht other ha
  rw [(h.open_eq waits awaited).2, List.mem_singleton, Prod.mk.injEq] at hmem
  simp [hmem.1] at hne

/-- Sending off the staged record opens the only delete. -/
theorem DeleteTracked.send (h : DeleteTracked s log) (stage : s.screen.stage = .staged id)
    (hd : new.filterMap Entry.delete? = [(s.calls, id)]) (hr : new.filterMap Entry.receipt? = [])
    (hcalls : s'.calls = s.calls + 1) (hstage : s'.screen.stage = .inFlight id)
    (hwaiting : ∀ t ∈ s'.waiting, ∀ other, t.awaited = .receipt other →
      t ∈ s.waiting ∨ (t.call = s.calls ∧ other = id)) :
    DeleteTracked s' (log ++ new) := by
  have hrest : ∀ other, s.screen.stage ≠ .inFlight other := by simp [stage]
  have hfresh : s.calls ∉ log.filterMap Entry.receipt? :=
    fun hn => Nat.lt_irrefl _ (h.receipt_lt _ hn)
  have hopen : openDeletes (log ++ new) = [(s.calls, id)] := by
    rw [openDeletes_append_delete hd hr hfresh, h.rest_open hrest, List.nil_append]
  exact {
    sent_lt := fun d hmem => by
      rw [List.filterMap_append, hd] at hmem
      obtain hmem | hmem := List.mem_append.mp hmem
      · have := h.sent_lt d hmem
        omega
      · obtain rfl := List.mem_singleton.mp hmem
        simp [hcalls]
    receipt_lt := fun n hn => by
      rw [List.filterMap_append, hr, List.append_nil] at hn
      have := h.receipt_lt n hn
      omega
    waiting_open := fun t ht other ha => by
      obtain hold | ⟨hcall, rfl⟩ := hwaiting t ht other ha
      · exact absurd ha (h.not_waiting hrest t hold other)
      · simp [hopen, hcall]
    inFlight_open := fun other hs => by
      obtain rfl : id = other := by simpa [hstage] using hs
      exact ⟨s.calls, hopen⟩
    rest_open := fun hs => absurd hstage (hs id)
    staged_asked := fun other hs => by simp [hstage] at hs }

variable [Entity α]

/-- **Every transition keeps deletes tracked.** -/
theorem DeleteTracked.keeps (h : DeleteTracked s log) (t : Transition s e s' new) :
    DeleteTracked s' (log ++ new) := by
  cases t with
  | queried params =>
      refine h.quiet (by simp [Entry.Quiet, Entry.command?, Entry.delete?, Entry.receipt?])
        (Nat.le_succ _) rfl fun t ht id ha => ?_
      obtain ht | ht := List.mem_append.mp ht
      · exact ht
      · simp [List.mem_singleton.mp ht] at ha
  | refused id other stage =>
      exact h.quiet (by simp [Entry.Quiet, Entry.command?, Entry.delete?, Entry.receipt?])
        (Nat.le_refl _) rfl fun t ht _ _ => ht
  | staged id stage =>
      refine h.rest rfl ?_ (by simp [emit, Entry.receipt?]) (Nat.le_refl _) (h.not_waiting stage)
        (by simp) fun id' hs => ?_
      · simpa [openDeletes, emit, Entry.delete?, Entry.receipt?] using h.rest_open stage
      · obtain rfl : id = id' := by simpa using hs
        exact justAsked_append_cons (by simp [Entry.command?, Entry.delete?])
  | nothingToSend stage =>
      exact h.quiet (by simp [Entry.Quiet, Entry.command?, Entry.delete?, Entry.receipt?])
        (Nat.le_refl _) rfl fun t ht _ _ => ht
  | sent id stage =>
      refine h.send stage rfl rfl rfl rfl fun t ht other ha => ?_
      obtain ht | ht := List.mem_append.mp ht
      · exact .inl ht
      · obtain rfl := List.mem_singleton.mp ht
        exact .inr ⟨rfl, by simpa using ha.symm⟩
  | nothingToCancel stage => exact h.quiet (by simp) (Nat.le_refl _) rfl fun t ht _ _ => ht
  | cancelled id stage =>
      have hrest : ∀ other, s.screen.stage ≠ .inFlight other := by simp [stage]
      refine h.rest rfl ?_ (by simp [emit, Entry.receipt?]) (Nat.le_refl _) (h.not_waiting hrest)
        (by simp) (by simp)
      simpa [openDeletes, emit, Entry.delete?, Entry.receipt?] using h.rest_open hrest
  | settled task ticket deleted answer waits awaited =>
      exact h.quiet (by simp [Entry.Quiet, Entry.command?, Entry.delete?, Entry.receipt?])
        (Nat.le_refl _) rfl fun t ht _ _ => (List.mem_filter.mp ht).1
  | failed task id e waits awaited =>
      have hlt := h.call_lt waits awaited
      refine h.rest rfl (h.closed waits awaited rfl rfl) (by simpa [emit, Entry.receipt?] using hlt)
        (Nat.le_refl _) (h.not_waiting_forget waits awaited) (by simp) fun id' hs => ?_
      obtain rfl : id = id' := by simpa using hs
      exact ⟨log ++ [.receipt task.call (.error e)], s.uiOpen,
        [.note (.finished task.number (.confirmFailed e))], by simp [emit],
        by simp [Entry.command?, Entry.delete?]⟩
  | deleted task id waits awaited =>
      have hlt := h.call_lt waits awaited
      refine h.rest rfl (h.closed waits awaited rfl rfl) (by simpa [emit, Entry.receipt?] using hlt)
        (Nat.le_succ _) (fun t ht other ha => ?_) (by simp) (by simp)
      obtain ht | ht := List.mem_append.mp ht
      · exact h.not_waiting_forget waits awaited t ht other ha
      · simp [List.mem_singleton.mp ht] at ha
  | strayPage call answer => exact h.quiet (by simp) (Nat.le_refl _) rfl fun t ht _ _ => ht
  | strayReceipt call answer => exact h.quiet (by simp) (Nat.le_refl _) rfl fun t ht _ _ => ht
  | dropped task =>
      exact h.quiet (by simp) (Nat.le_refl _) rfl fun t ht _ _ => (List.mem_filter.mp ht).1
  | uiClosed => exact h.quiet (by simp) (Nat.le_refl _) rfl fun t ht _ _ => ht

theorem deleteTracked_run (token : CsrfToken) (es : List Event) :
    DeleteTracked ((opened token : Session α).run es).1 ((opened token : Session α).log es) :=
  run_induction (deleteTracked_opened token) DeleteTracked.keeps es

/-! ## deletes that are sent -/

/-- A delete is only ever sent for the staged record, and nothing is seen of
the step before that. -/
theorem Transition.staged_of_delete {pre post : List Entry} {kind : Kind} {token : CsrfToken}
    (t : Transition s e s' (pre ++ .note (.called n (.delete kind id token)) :: post)) :
    pre = [] ∧ s.screen.stage = .staged id := by
  have hmem : Entry.note (.called n (.delete kind id token)) ∈
      pre ++ .note (.called n (.delete kind id token)) :: post := by simp
  generalize hnew : pre ++ Entry.note (.called n (.delete kind id token)) :: post = new at t hmem
  cases t with
  | sent other stage =>
      obtain ⟨rfl, hcons⟩ | ⟨-, hcons⟩ := List.append_eq_singleton_iff.mp hnew
      · simp only [List.cons.injEq, Entry.note.injEq, Note.called.injEq, Call.delete.injEq] at hcons
        exact ⟨rfl, by rw [stage, hcons.1.2.2.1]⟩
      · simp at hcons
  | _ => simp [emit] at hmem

/-- **Every delete was asked for**: at the moment it is sent, the last command
was to ask about its record, and nothing has been deleted since. -/
theorem justAsked_of_log_eq {token token' : CsrfToken} {es : List Event}
    {before after : List Entry} {kind : Kind}
    (h : (opened token : Session α).log es =
      before ++ .note (.called n (.delete kind id token')) :: after) : JustAsked before id := by
  obtain ⟨earlier, e, later, pre, post, rfl, hnew, rfl, -⟩ := exists_step_of_log_eq h
  have t := transition ((opened token : Session α).run earlier).1 e
  rw [hnew] at t
  obtain ⟨rfl, hstage⟩ := t.staged_of_delete
  rw [List.append_nil]
  exact (deleteTracked_run token earlier).staged_asked id hstage

/-- A request leads to at most one delete, and that is for its record: until
the next command there is none, or this one. -/
theorem deletes_of_request {token : CsrfToken} {es : List Event}
    {earlier later after : List Entry} {delivered : Bool}
    (h : (opened token : Session α).log es =
      earlier ++ .note (.emitted (.requestConfirmation id) delivered) :: later ++ after)
    (hlater : ∀ x ∈ later, x.command? = none) :
    later.filterMap Entry.delete? = [] ∨ ∃ n, later.filterMap Entry.delete? = [(n, id)] := by
  -- a delete among `later` is for `id`, and no other stands before it
  have key : ∀ before x rest m other, later = before ++ x :: rest → x.delete? = some (m, other) →
      other = id ∧ ∀ y ∈ before, y.delete? = none := by
    intro before x rest m other hsplit hx
    subst hsplit
    obtain ⟨kind, token', rfl⟩ := Entry.eq_of_delete? hx
    have hlog : (opened token : Session α).log es =
        (earlier ++ .note (.emitted (.requestConfirmation id) delivered) :: before) ++
          .note (.called m (.delete kind other token')) :: (rest ++ after) := by
      simpa [List.append_assoc] using h
    have hasked := (justAsked_of_log_eq hlog).of_last fun y hy => hlater y (by simp [hy])
    exact ⟨hasked.1.symm, hasked.2⟩
  cases hfirst : later.filterMap Entry.delete? with
  | nil => exact .inl rfl
  | cons d ds =>
      obtain ⟨before, x, rest, hsplit, -, hx, hds⟩ := List.filterMap_eq_cons_iff.mp hfirst
      cases ds with
      | nil =>
          obtain ⟨rfl, -⟩ := key before x rest d.1 d.2 hsplit hx
          exact .inr ⟨d.1, rfl⟩
      | cons d' ds =>
          obtain ⟨between, x', rest', rfl, -, hx', -⟩ := List.filterMap_eq_cons_iff.mp hds
          have hnone := (key (before ++ x :: between) x' rest' d'.1 d'.2 (by simp [hsplit]) hx').2
          simp [hnone x (by simp)] at hx

/-- While a delete is in flight no record can be staged and none is sent. -/
theorem step_of_inFlight (h : s.screen.stage = .inFlight id) :
    (∀ other, s.step (.remove other) = (s, [.removed false])) ∧
      s.step .confirm =
        ({ s with tasks := s.tasks + 1 }, [.finished s.tasks (.confirmed none)]) := by
  simp [step, ListScreen.remove, ListScreen.confirm, h]

/-- **Delete safety.**  After every run of a list screen, in whatever order
queries, confirmations, answers and dropped tasks come:

* at most one delete is open;
* every delete was asked for last, so that a request to confirm leads to one
  delete of its record or to none;
* while a delete of a record is open the screen says so, refuses to stage any
  other, and a confirmation ends at once without a call. -/
theorem delete_safety (token : CsrfToken) (es : List Event) :
    let s := ((opened token : Session α).run es).1
    let log := (opened token : Session α).log es
    (openDeletes log).length ≤ 1 ∧
    (∀ before n kind id token' after,
      log = before ++ .note (.called n (.delete kind id token')) :: after →
        JustAsked before id) ∧
    (∀ earlier id delivered later after,
      log = earlier ++ .note (.emitted (.requestConfirmation id) delivered) :: later ++ after →
        (∀ x ∈ later, x.command? = none) →
          later.filterMap Entry.delete? = [] ∨
            ∃ n, later.filterMap Entry.delete? = [(n, id)]) ∧
    ∀ n id, (n, id) ∈ openDeletes log →
      s.screen.deletingId = some id ∧
      (∀ other, s.step (.remove other) = (s, [.removed false])) ∧
      s.step .confirm =
        ({ s with tasks := s.tasks + 1 }, [.finished s.tasks (.confirmed none)]) := by
  intro s log
  have h : DeleteTracked s log := deleteTracked_run token es
  refine ⟨h.length_openDeletes_le, fun _ _ _ _ _ _ => justAsked_of_log_eq,
    fun _ _ _ _ _ => deletes_of_request, fun n id hmem => ?_⟩
  have hstage := (h.eq_of_mem hmem).1
  exact ⟨by simp [ListScreen.deletingId, hstage, DeleteStage.id?], step_of_inFlight hstage⟩

/-- A delete whose task is given up before the answer comes stays open: the
screen goes on refusing. -/
theorem delete_safety_dropped :
    let es : List Event := [.remove "a", .confirm, .drop 0, .query none]
    let s := ((opened ⟨"t"⟩ : Session Alert).run es).1
    let log := (opened ⟨"t"⟩ : Session Alert).log es
    let asked : Entry := .note (.emitted (.requestConfirmation "a") true)
    let later : List Entry := [.note (.removed true),
      .note (.called 0 (.delete .alert "a" ⟨"t"⟩)), .note (.called 1 (.query .alert {}))]
    log = asked :: later ∧ JustAsked [asked, .note (.removed true)] "a" ∧
      (∀ x ∈ later, x.command? = none) ∧
      (later.filterMap Entry.delete? = [] ∨ ∃ n, later.filterMap Entry.delete? = [(n, "a")]) ∧
      (0, "a") ∈ openDeletes log ∧ s.screen.deletingId = some "a" ∧
      s.step (.remove "b") = (s, [.removed false]) := by
  intro es s log asked later
  have hlog : log = asked :: later := rfl
  have hlater : ∀ x ∈ later, x.command? = none := by simp [later, Entry.command?]
  have hmem : (0, "a") ∈ openDeletes log := by
    simp [hlog, asked, later, openDeletes, Entry.delete?, Entry.receipt?]
  have h := delete_safety (α := Alert) ⟨"t"⟩ es
  exact ⟨hlog, h.2.1 [asked, .note (.removed true)] 0 .alert "a" ⟨"t"⟩ _ hlog, hlater,
    h.2.2.1 [] "a" true later [] hlog hlater, hmem, (h.2.2.2 0 "a" hmem).1,
    (h.2.2.2 0 "a" hmem).2.1 "b"⟩

end Session

end AlertDesk.ListScreen
