import AlertDesk.Proofs.ListScreen.DeleteSafety
import AlertDesk.Proofs.Split

/-!
# AlertDesk.Proofs.ListScreen.GivenUp

How long a list screen says that a delete is in flight.  It says so from the
moment a delete is sent until its answer is taken in, and refuses to stage
another record for as long.  That is while the delete is outstanding, provided
that its task waits for the answer.  A task that is given up takes no answer in,
so a delete that was given up is in flight for ever.

`Kept` is the invariant: a delete that is not answered is waited for or was given
up, and behind one that was given up nobody waits for a receipt any more.

Main fact: `in_flight_until_answered` — when the screen says that a delete is in
flight, when that means that one is outstanding, and when it can be used again.
-/

namespace AlertDesk.ListScreen.Session

variable {α : Type}

/-! ## calls that wait -/

/-- No two tasks wait for the same call, and the next call is another one. -/
structure CallsApart (s : Session α) : Prop where
  call_lt : ∀ t ∈ s.waiting, t.call < s.calls
  call_inj : ∀ t ∈ s.waiting, ∀ t' ∈ s.waiting, t.call = t'.call → t = t'

variable {s s' : Session α} {e : Event} {log new : List Entry}

/-- Waiting for no more than before. -/
theorem CallsApart.fewer (h : CallsApart s) (hcalls : s'.calls = s.calls)
    (hwaiting : ∀ t ∈ s'.waiting, t ∈ s.waiting) : CallsApart s' where
  call_lt := fun t ht => hcalls ▸ h.call_lt t (hwaiting t ht)
  call_inj := fun t ht t' ht' => h.call_inj t (hwaiting t ht) t' (hwaiting t' ht')

/-- Waiting for the next call. -/
theorem CallsApart.more (h : CallsApart s) (task : Task) (htask : task.call = s.calls)
    (hcalls : s'.calls = s.calls + 1) (hwaiting : ∀ t ∈ s'.waiting, t ∈ s.waiting ∨ t = task) :
    CallsApart s' where
  call_lt := fun t ht => by
    obtain ht | rfl := hwaiting t ht
    · have := h.call_lt t ht
      omega
    · omega
  call_inj := fun t ht t' ht' heq => by
    obtain ht | rfl := hwaiting t ht <;> obtain ht' | rfl := hwaiting t' ht'
    · exact h.call_inj t ht t' ht' heq
    · have := h.call_lt t ht
      omega
    · have := h.call_lt t' ht'
      omega
    · rfl

/-- A task that waits is found by its call. -/
theorem CallsApart.find?_eq (h : CallsApart s) {task : Task} (waits : task ∈ s.waiting) :
    s.find? task.call = some task := by
  cases hf : s.find? task.call with
  | none => simpa using List.find?_eq_none.mp hf task waits
  | some other =>
      obtain ⟨hmem, hcall⟩ := mem_of_find? hf
      rw [h.call_inj other hmem task waits hcall]

variable [Entity α]

theorem CallsApart.keeps (h : CallsApart s) (t : Transition s e s' new) : CallsApart s' := by
  cases t with
  | queried params =>
      exact h.more ⟨s.tasks, s.calls, .page (s.screen.list.issued + 1) none⟩ rfl rfl (by simp)
  | sent id stage => exact h.more ⟨s.tasks, s.calls, .receipt id⟩ rfl rfl (by simp)
  | deleted task id waits awaited =>
      refine h.more ⟨task.number, s.calls, .page (s.screen.list.issued + 1) (some id)⟩
        rfl rfl fun t ht => ?_
      obtain ht | ht := List.mem_append.mp ht
      · exact .inl (List.mem_filter.mp ht).1
      · exact .inr (List.mem_singleton.mp ht)
  | settled | failed | dropped => exact h.fewer rfl fun t ht => (List.mem_filter.mp ht).1
  | _ => exact h.fewer rfl fun t ht => ht

theorem callsApart_run (token : CsrfToken) (es : List Event) :
    CallsApart ((opened token : Session α).run es).1 :=
  run_induction (P := fun s _ => CallsApart s) ⟨by simp [opened], by simp [opened]⟩
    (fun h t => h.keeps t) es

/-! ## what becomes of a delete -/

/-- In the run of the events the delete call was given up: its task was dropped
while it waited for the receipt. -/
def GivenUp (s : Session α) (es : List Event) (call : Nat) (id : String) : Prop :=
  ∃ task : Task, task.call = call ∧ task.awaited = .receipt id ∧
    ∃ before after, es = before ++ .drop task.number :: after ∧ task ∈ (s.run before).1.waiting

/-- Behind the events the delete call is outstanding: it was sent, and neither
answered nor given up. -/
def Outstanding (s : Session α) (es : List Event) (call : Nat) (id : String) : Prop :=
  (call, id) ∈ openDeletes (s.log es) ∧ ¬ s.GivenUp es call id

variable {start : Session α} {es : List Event} {n : Nat} {id : String}

theorem not_givenUp_nil : ¬ start.GivenUp [] n id := by
  rintro ⟨task, -, -, before, after, h, -⟩
  simp at h

theorem givenUp_concat : start.GivenUp (es ++ [e]) n id ↔ start.GivenUp es n id ∨
    ∃ task ∈ (start.run es).1.waiting, task.call = n ∧ task.awaited = .receipt id ∧
      e = .drop task.number := by
  simp only [GivenUp, split_concat_iff, and_or_left, exists_or]
  grind

/-- What becomes of the deletes of a session. -/
structure Kept (start s : Session α) (es : List Event) (log : List Entry) : Prop where
  /-- A delete that is not answered is waited for, or was given up. -/
  waits : ∀ n id, (n, id) ∈ openDeletes log →
    (∃ t ∈ s.waiting, t.call = n ∧ t.awaited = .receipt id) ∨ start.GivenUp es n id
  /-- A delete that was given up is not answered, and nobody waits for a receipt. -/
  left : ∀ n id, start.GivenUp es n id →
    (n, id) ∈ openDeletes log ∧ ∀ t ∈ s.waiting, ∀ other, t.awaited ≠ .receipt other

theorem kept_nil (start : Session α) : Kept start start [] [] where
  waits := by simp [openDeletes]
  left := fun n id h => absurd h not_givenUp_nil

/-- Nothing has happened to deletes, nor to whoever waits for a receipt. -/
theorem Kept.quiet (h : Kept start s es log) {es' : List Event}
    (hopen : openDeletes (log ++ new) = openDeletes log)
    (hgiven : ∀ n id, start.GivenUp es' n id ↔ start.GivenUp es n id)
    (hwaiting : ∀ t id, t.awaited = .receipt id → (t ∈ s'.waiting ↔ t ∈ s.waiting)) :
    Kept start s' es' (log ++ new) where
  waits := fun n id hmem => by
    rw [hopen] at hmem
    rw [hgiven]
    refine (h.waits n id hmem).imp_left fun ⟨t, ht, hcall, ha⟩ => ?_
    exact ⟨t, (hwaiting t id ha).mpr ht, hcall, ha⟩
  left := fun n id hg => by
    obtain ⟨hmem, hnone⟩ := h.left n id ((hgiven n id).mp hg)
    refine ⟨hopen ▸ hmem, fun t ht other ha => ?_⟩
    exact hnone t ((hwaiting t other ha).mp ht) other ha

/-- No delete is open any more, and none was given up. -/
theorem Kept.closed {es' : List Event} (hopen : openDeletes (log ++ new) = [])
    (hgiven : ∀ n id, ¬ start.GivenUp es' n id) : Kept start s' es' (log ++ new) where
  waits := by simp [hopen]
  left := fun n id hg => absurd hg (hgiven n id)

/-- **Every transition keeps track of what becomes of deletes.** -/
theorem Kept.keeps (h : Kept start s es log) (tracked : DeleteTracked s log) (apart : CallsApart s)
    (t : Transition s e s' new) {es' : List Event}
    (hgiven : ∀ n id, start.GivenUp es' n id ↔ start.GivenUp es n id ∨
      ∃ task ∈ s.waiting, task.call = n ∧ task.awaited = .receipt id ∧ e = .drop task.number) :
    Kept start s' es' (log ++ new) := by
  cases t with
  | queried params =>
      refine h.quiet ?_ (by simp [hgiven]) fun t id ha => ?_
      · simp [openDeletes, Entry.delete?, Entry.receipt?]
      · simp only [List.mem_append, List.mem_singleton, or_iff_left_iff_imp]
        rintro rfl
        contradiction
  | settled task ticket deleted answer waits awaited =>
      refine h.quiet ?_ (by simp [hgiven]) fun t id ha => ?_
      · simp [openDeletes, Entry.delete?, Entry.receipt?]
      · -- the task that is done is another one, and so is its call
        refine ⟨fun ht => (List.mem_filter.mp ht).1, fun ht => List.mem_filter.mpr ⟨ht, ?_⟩⟩
        refine decide_eq_true fun hcall => ?_
        obtain rfl := apart.call_inj t ht task waits hcall
        rw [awaited] at ha
        contradiction
  | sent id stage =>
      have hrest : ∀ other, s.screen.stage ≠ .inFlight other := by simp [stage]
      have hfresh : s.calls ∉ log.filterMap Entry.receipt? :=
        fun hn => Nat.lt_irrefl _ (tracked.receipt_lt _ hn)
      have hopen := tracked.rest_open hrest
      constructor
      · intro n other hmem
        rw [openDeletes_append_delete rfl rfl hfresh, hopen, List.nil_append,
          List.mem_singleton, Prod.mk.injEq] at hmem
        obtain ⟨rfl, rfl⟩ := hmem
        exact .inl ⟨_, List.mem_append_right _ (List.mem_singleton.mpr rfl), rfl, rfl⟩
      · intro n other hg
        have hold : start.GivenUp es n other := by simpa [hgiven] using hg
        have hmem := (h.left n other hold).1
        rw [hopen] at hmem
        contradiction
  | failed task id err waits awaited =>
      refine .closed (tracked.closed waits awaited rfl rfl) fun n other hg => ?_
      have hold : start.GivenUp es n other := by simpa [hgiven] using hg
      exact (h.left n other hold).2 task waits id awaited
  | deleted task id waits awaited =>
      refine .closed (tracked.closed waits awaited rfl rfl) fun n other hg => ?_
      have hold : start.GivenUp es n other := by simpa [hgiven] using hg
      exact (h.left n other hold).2 task waits id awaited
  | dropped number =>
      rw [List.append_nil]
      constructor
      · intro n id hmem
        rw [hgiven]
        obtain ⟨t, ht, hcall, ha⟩ | hold := h.waits n id hmem
        · by_cases hn : t.number = number
          · exact .inr (.inr ⟨t, ht, hcall, ha, by rw [hn]⟩)
          · exact .inl ⟨t, List.mem_filter.mpr ⟨ht, decide_eq_true hn⟩, hcall, ha⟩
        · exact .inr (.inl hold)
      · intro n id hg
        obtain hold | ⟨task, htask, rfl, ha, hdrop⟩ := (hgiven n id).mp hg
        · obtain ⟨hmem, hnone⟩ := h.left n id hold
          exact ⟨hmem, fun t ht => hnone t (List.mem_filter.mp ht).1⟩
        · obtain rfl : number = task.number := by simpa using hdrop
          have hopen := (tracked.open_eq htask ha).2
          refine ⟨by simp [hopen], fun t ht other hother => ?_⟩
          -- whoever else waits for a receipt waits for this one, so is the task that was dropped
          obtain ⟨ht, hne⟩ := List.mem_filter.mp ht
          have hsame : (t.call, other) = (task.call, id) := by
            simpa [hopen, eq_comm] using (tracked.open_eq ht hother).2
          obtain rfl := apart.call_inj t ht task htask (Prod.mk.inj hsame).1
          simp at hne
  | _ =>
      refine h.quiet ?_ (by simp [hgiven]) fun t id ha => Iff.rfl
      simp [openDeletes, emit, Entry.delete?, Entry.receipt?]

theorem kept_run (token : CsrfToken) (es : List Event) :
    Kept (opened token : Session α) ((opened token : Session α).run es).1 es
      ((opened token : Session α).log es) := by
  induction es using List.reverseRecOn with
  | nil => exact kept_nil _
  | append_singleton es e ih =>
      have t := transition ((opened token : Session α).run es).1 e
      have kept := ih.keeps (deleteTracked_run token es) (callsApart_run token es) t
        fun n id => givenUp_concat
      simpa [run_append, run_cons, log_append, log_cons] using kept

/-! ## in flight -/

omit [Entity α] in
/-- A delete is in flight exactly while one is sent and not answered. -/
theorem DeleteTracked.inFlight_iff (h : DeleteTracked s log) :
    s.screen.deleteInFlight = true ↔ ∃ n id, (n, id) ∈ openDeletes log := by
  constructor
  · intro hflight
    cases hs : s.screen.stage with
    | inFlight id =>
        obtain ⟨n, hopen⟩ := h.inFlight_open id hs
        exact ⟨n, id, by simp [hopen]⟩
    | _ => simp [ListScreen.deleteInFlight, DeleteStage.isInFlight, hs] at hflight
  · rintro ⟨n, id, hmem⟩
    simp [ListScreen.deleteInFlight, DeleteStage.isInFlight, (h.eq_of_mem hmem).1]

/-- Records are refused exactly while a delete is in flight. -/
theorem step_remove_iff (s : Session α) (other : String) :
    s.step (.remove other) = (s, [.removed false]) ↔ s.screen.deleteInFlight = true := by
  cases hs : s.screen.stage <;>
    simp [step, ListScreen.remove, ListScreen.deleteInFlight, DeleteStage.isInFlight, hs]

/-- A delete that was given up stays so. -/
theorem GivenUp.append (h : start.GivenUp es n id) (more : List Event) :
    start.GivenUp (es ++ more) n id := by
  obtain ⟨task, hcall, ha, before, behind, rfl, hmem⟩ := h
  exact ⟨task, hcall, ha, before, behind ++ more, by simp, hmem⟩

/-- An answer that a task takes in ends the flight of its delete. -/
theorem inFlight_answered {task : Task} (hf : s.find? task.call = some task)
    (ha : task.awaited = .receipt id) (answer : Except PortalError Unit) :
    (s.step (.answerDelete task.call answer)).1.screen.deleteInFlight = false := by
  cases answer <;> simp only [step, hf, ha, deleteAnswered] <;> rfl

/-- **How long a delete is in flight.**  After every run of a list screen the
screen says that a delete is in flight, and refuses to stage records, exactly
while one is sent and not answered.  That is while one is outstanding if and
only if no delete was given up.  The answer to an outstanding delete, whatever
it is, makes the screen ready for the next one; behind a delete that was given
up, nothing does. -/
theorem in_flight_until_answered (token : CsrfToken) (es : List Event) :
    let start : Session α := opened token
    let s := (start.run es).1
    (s.screen.deleteInFlight = true ↔ ∃ n id, (n, id) ∈ openDeletes (start.log es)) ∧
    (∀ other, s.step (.remove other) = (s, [.removed false]) ↔
      s.screen.deleteInFlight = true) ∧
    ((s.screen.deleteInFlight = true ↔ ∃ n id, start.Outstanding es n id) ↔
      ∀ n id, ¬ start.GivenUp es n id) ∧
    (∀ n id, start.Outstanding es n id → ∀ answer,
      (s.step (.answerDelete n answer)).1.screen.deleteInFlight = false) ∧
    ∀ n id, start.GivenUp es n id → ∀ more,
      (start.run (es ++ more)).1.screen.deleteInFlight = true := by
  intro start s
  have tracked := deleteTracked_run (α := α) token
  have kept := kept_run (α := α) token
  have hflight : ∀ es, (start.run es).1.screen.deleteInFlight = true ↔ _ :=
    fun es => (tracked es).inFlight_iff
  refine ⟨hflight es, step_remove_iff s, ?_, ?_, ?_⟩
  · rw [hflight es]
    constructor
    · intro hiff n id hg
      have hopen := ((kept es).left n id hg).1
      obtain ⟨m, other, hmem, hnot⟩ := hiff.mp ⟨n, id, hopen⟩
      have hsame : (n, id) = (m, other) := by
        simpa [((tracked es).eq_of_mem hmem).2] using hopen
      obtain ⟨rfl, rfl⟩ := Prod.mk.inj hsame
      exact hnot hg
    · intro hnone
      simp only [Outstanding, hnone, not_false_eq_true, and_true]
      rfl
  · rintro n id ⟨hopen, hnot⟩ answer
    obtain ⟨t, ht, rfl, ha⟩ | hg := (kept es).waits n id hopen
    · exact inFlight_answered ((callsApart_run token es).find?_eq ht) ha answer
    · exact absurd hg hnot
  · intro n id hg more
    exact (hflight _).mpr ⟨n, id, ((kept _).left n id (hg.append more)).1⟩

/-- A delete whose task is given up is in flight and not outstanding: the screen
refuses every other record. -/
theorem in_flight_given_up :
    let start : Session Alert := opened ⟨"t"⟩
    let es : List Event := [.remove "a", .confirm, .drop 0]
    let s := (start.run es).1
    s.screen.deleteInFlight = true ∧ (¬ ∃ n id, start.Outstanding es n id) ∧
      s.waiting = [] ∧ s.step (.remove "b") = (s, [.removed false]) := by
  intro start es s
  refine ⟨rfl, ?_, rfl, rfl⟩
  rintro ⟨n, id, hopen, hnot⟩
  have sent : openDeletes (start.log es) = [(0, "a")] := rfl
  obtain ⟨rfl, rfl⟩ : n = 0 ∧ id = "a" := by simpa [sent] using hopen
  exact hnot ⟨⟨0, 0, .receipt "a"⟩, rfl, rfl, [.remove "a", .confirm], [], rfl, .head _⟩

end AlertDesk.ListScreen.Session
