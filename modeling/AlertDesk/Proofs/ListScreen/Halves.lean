import AlertDesk.Proofs.ListScreen.Confirm
import AlertDesk.Record.Alert
import Mathlib.Logic.Equiv.Basic

/-!
# AlertDesk.Proofs.ListScreen.Halves

The two halves of a list screen: the list, and the delete under way.  A step of
one half leaves the other as it is, and neither notices in which order the two
take their steps.  What does differ is how tasks and calls are numbered that the
steps begin, so the two orders are compared up to a `Renumbering` that leaves the
older ones alone.

A step of either half is a `Move` on the tasks of the session: at most one task is
done with, at most one begins, and something is seen of it.  Which move that is
depends on its own half only (`exists_listMove`, `exists_deleteMove`), and the moves
of different halves can be made in either order (`Move.waiting_comm`,
`exists_eitherWay`).

Main fact: `halves_apart`.
-/

namespace AlertDesk.ListScreen

/-! ## the two halves -/

/-- Whether a task waits for a page. -/
def Awaited.isPage : Awaited → Bool
  | .page .. => true
  | .receipt _ => false

/-- A step of the delete half: a record is staged or given up, a confirmation
starts, or a delete fails. -/
def Event.DeleteSide : Event → Prop
  | .remove _ | .cancel | .confirm | .answerDelete _ (.error _) => True
  | _ => False

/-- A step of the list half: a query starts or is answered, or a task that waits
for a page is given up. -/
def Session.ListSide {α : Type} (s : Session α) : Event → Prop
  | .query _ | .answerQuery .. => True
  | .drop number => ∃ t ∈ s.waiting, t.number = number ∧ t.awaited.isPage = true
  | _ => False

namespace Note

/-- The command of a note, whether or not it was taken in. -/
def command? : Note → Option UiCommand
  | .emitted c _ => some c
  | _ => none

/-- The call of a note, whatever its number. -/
def made? (n : Note) : Option Call := n.call?.map Prod.snd

end Note

/-! ## other numbers for the same tasks and calls -/

/-- Other numbers for tasks and for calls. -/
structure Renumbering where
  tasks : Equiv.Perm Nat
  calls : Equiv.Perm Nat

namespace Renumbering

/-- The task under its other numbers. -/
def task (r : Renumbering) (t : Task) : Task := ⟨r.tasks t.number, r.calls t.call, t.awaited⟩

/-- The note with the other numbers in it. -/
def note (r : Renumbering) : Note → Note
  | .called n call => .called (r.calls n) call
  | .finished n ending => .finished (r.tasks n) ending
  | .emitted c delivered => .emitted c delivered
  | .removed accepted => .removed accepted

/-- What has a number already keeps it. -/
structure Keeps {α : Type} (r : Renumbering) (s : Session α) : Prop where
  tasks_eq : ∀ n < s.tasks, r.tasks n = n
  calls_eq : ∀ n < s.calls, r.calls n = n

@[simp] theorem command?_note (r : Renumbering) (n : Note) :
    (r.note n).command? = n.command? := by
  cases n <;> rfl

@[simp] theorem made?_note (r : Renumbering) (n : Note) : (r.note n).made? = n.made? := by
  cases n <;> rfl

end Renumbering

/-- If two numbers are given out, the other way round; if only one is, as before. -/
def turned (n : Nat) (first second : Bool) : Equiv.Perm Nat :=
  if first && second then Equiv.swap n (n + 1) else Equiv.refl Nat

section

variable {n m : Nat} {first second : Bool}

theorem turned_of_lt (h : m < n) : turned n first second m = m := by
  unfold turned
  split
  · exact Equiv.swap_apply_of_ne_of_ne (Nat.ne_of_lt h) (Nat.ne_of_lt (Nat.lt_succ_of_lt h))
  · rfl

theorem turned_first (h : first = true) : turned n first second n = n + second.toNat := by
  subst h
  cases second <;> simp [turned]

theorem turned_second (h : second = true) : turned n first second (n + first.toNat) = n := by
  subst h
  cases first <;> simp [turned]

end

/-! ## moves -/

namespace Session

variable {α : Type}

/-- Neither tasks nor calls that wait are confused. -/
structure Apart (s : Session α) : Prop extends CallsApart s, NumbersApart s

/-- What a step does to the tasks of a session, and what is seen of it. -/
structure Move where
  /-- The task that is done with. -/
  done : Option Task := none
  /-- Whether a task begins. -/
  begins : Bool := false
  /-- The call that it makes, and what it waits for then. -/
  sends : Option (Call × Awaited) := none
  /-- What is seen that has no number. -/
  told : List Note := []
  /-- How the task ends that is done with or begins. -/
  ending : Option Ending := none

namespace Move

/-- The task that begins, if it has something to wait for. -/
def opened (m : Move) (task call : Nat) : List Task :=
  (m.sends.map fun c => ⟨task, call, c.2⟩).toList

/-- The tasks that go on waiting. -/
def rest (m : Move) (waiting : List Task) : List Task :=
  match m.done with
  | none => waiting
  | some t => waiting.filter (· ≠ t)

/-- The session after a move, its screen apart. -/
def apply (m : Move) (s : Session α) : Session α :=
  { s with
    waiting := m.rest s.waiting ++ m.opened s.tasks s.calls
    tasks := s.tasks + m.begins.toNat
    calls := s.calls + m.sends.isSome.toNat }

/-- The call that is made. -/
def called (m : Move) (call : Nat) : List Note := (m.sends.map fun c => .called call c.1).toList

/-- The end of the task that is done with or begins. -/
def ended (m : Move) (task : Nat) : List Note :=
  (m.ending.map (.finished ((m.done.map Task.number).getD task))).toList

/-- What is seen of a move. -/
def notes (m : Move) (task call : Nat) : List Note := m.told ++ m.called call ++ m.ended task

/-- A move that a session can make: who is done with did wait, and who ends or
sends a call is done with or begins. -/
structure Fits (m : Move) (s : Session α) : Prop where
  waits : ∀ t, m.done = some t → t ∈ s.waiting
  begins_of_sends : m.sends.isSome → m.begins = true
  begins_of_ending : m.ending.isSome → m.done = none → m.begins = true
  plain : ∀ r : Renumbering, m.told.map r.note = m.told

/-! ### two moves in either order -/

variable {s : Session α} {m k : Move}

/-- The numbers that two moves give out, the other way round. -/
def exchange (m k : Move) (s : Session α) : Renumbering where
  tasks := turned s.tasks m.begins k.begins
  calls := turned s.calls m.sends.isSome k.sends.isSome

theorem keeps_exchange : (exchange m k s).Keeps s where
  tasks_eq := fun _ h => turned_of_lt h
  calls_eq := fun _ h => turned_of_lt h

/-- The task that begins, under its other number. -/
theorem map_opened {r : Renumbering} {task call task' call' : Nat} (hm : m.Fits s)
    (htask : m.begins = true → r.tasks task = task')
    (hcall : m.sends.isSome = true → r.calls call = call') :
    (m.opened task call).map r.task = m.opened task' call' := by
  cases h : m.sends with
  | none => simp [opened, h]
  | some c =>
      have hsends : m.sends.isSome = true := by simp [h]
      simp [opened, h, Renumbering.task, htask (hm.begins_of_sends hsends), hcall hsends]

/-- Tasks that waited before keep their numbers. -/
theorem map_old {old : List Task} (apart : Apart s)
    (hold : ∀ t ∈ old, t ∈ s.waiting) : old.map (exchange m k s).task = old := by
  refine (List.map_congr_left fun t ht => ?_).trans (List.map_id _)
  have keeps : (exchange m k s).Keeps s := keeps_exchange
  simp [Renumbering.task, keeps.tasks_eq _ (apart.number_lt t (hold t ht)),
    keeps.calls_eq _ (apart.call_lt t (hold t ht))]

theorem mem_rest {waiting : List Task} {t : Task} :
    t ∈ m.rest waiting ↔ t ∈ waiting ∧ m.done ≠ some t := by
  cases h : m.done with
  | none => simp [rest, h]
  | some done => simp [rest, h, @eq_comm _ t]

theorem rest_append (a b : List Task) : m.rest (a ++ b) = m.rest a ++ m.rest b := by
  unfold rest
  split
  · rfl
  · exact List.filter_append ..

theorem rest_comm (waiting : List Task) : m.rest (k.rest waiting) = k.rest (m.rest waiting) := by
  unfold rest
  split <;> split <;> simp only [List.filter_filter, Bool.and_comm]

/-- A task that begins is not the one that is done with. -/
theorem rest_opened {task call : Nat} (apart : Apart s) (hk : k.Fits s) (hle : s.tasks ≤ task) :
    k.rest (m.opened task call) = m.opened task call := by
  unfold rest
  split
  · rfl
  · next done hdone =>
      refine List.filter_eq_self.mpr fun t ht => decide_eq_true fun heq => ?_
      have hlt := apart.number_lt done (hk.waits done hdone)
      have hnumber : t.number = task := by
        obtain ⟨call', awaited, -, rfl⟩ : ∃ _ _, m.sends = some _ ∧ _ = t := by
          simpa [opened] using ht
        rfl
      rw [heq] at hnumber
      omega

/-- What waits after two moves. -/
theorem waiting_apply_apply (apart : Apart s) (hk : k.Fits s) :
    (k.apply (m.apply s)).waiting = k.rest (m.rest s.waiting) ++ (m.opened s.tasks s.calls ++
      k.opened (s.tasks + m.begins.toNat) (s.calls + m.sends.isSome.toNat)) := by
  simp only [apply, rest_append, rest_opened apart hk (Nat.le_refl _), List.append_assoc]

/-- **Two moves leave the same behind in either order**, up to the numbers that
they give out. -/
theorem waiting_comm (apart : Apart s) (hm : m.Fits s)
    (hk : k.Fits s) :
    ((k.apply (m.apply s)).waiting.map (exchange m k s).task).Perm
      (m.apply (k.apply s)).waiting := by
  rw [waiting_apply_apply apart hk, waiting_apply_apply apart hm, List.map_append,
    List.map_append, map_opened hm turned_first turned_first,
    map_opened hk turned_second turned_second,
    map_old apart fun t ht => (mem_rest.mp (mem_rest.mp ht).1).1, rest_comm]
  exact List.perm_append_comm.append_left _

/-- What is seen of a move, under other numbers. -/
theorem map_notes {r : Renumbering} {task call task' call' : Nat} (apart : Apart s)
    (hm : m.Fits s) (keeps : r.Keeps s) (htask : m.begins = true → r.tasks task = task')
    (hcall : m.sends.isSome = true → r.calls call = call') :
    (m.notes task call).map r.note = m.notes task' call' := by
  have hcalled : (m.called call).map r.note = m.called call' := by
    cases h : m.sends with
    | none => simp [called, h]
    | some c => simp [called, h, Renumbering.note, hcall (by simp [h])]
  have hended : (m.ended task).map r.note = m.ended task' := by
    cases he : m.ending with
    | none => simp [ended, he]
    | some e =>
        cases hd : m.done with
        | none =>
            have hbegins := hm.begins_of_ending (by simp [he]) hd
            simp [ended, he, hd, Renumbering.note, htask hbegins]
        | some t =>
            have hlt := apart.number_lt t (hm.waits t hd)
            simp [ended, he, hd, Renumbering.note, keeps.tasks_eq _ hlt]
  rw [notes, notes, List.map_append, List.map_append, hm.plain, hcalled, hended]

/-- A move of tasks that wait for pages, or of tasks that wait for receipts. -/
structure Within (m : Move) (page : Bool) : Prop where
  done : ∀ t, m.done = some t → t.awaited.isPage = page
  sends : ∀ c, m.sends = some c → c.2.isPage = page

/-- A move leaves the tasks of the other half waiting, and adds none to them. -/
theorem Within.mem_apply {page : Bool} {t : Task} (h : m.Within page)
    (ht : t.awaited.isPage ≠ page) : t ∈ (m.apply s).waiting ↔ t ∈ s.waiting := by
  have hkept : m.done ≠ some t := fun hdone => ht (h.done t hdone)
  have hold : t ∉ m.opened s.tasks s.calls := by
    cases hs : m.sends with
    | none => simp [opened, hs]
    | some c =>
        have hsends := h.sends c hs
        simp only [opened, hs, Option.map_some, Option.toList_some, List.mem_singleton]
        rintro rfl
        exact ht hsends
  simp [apply, mem_rest, hkept, hold]

end Move

/-! ## the moves of the list half -/

/-- Another session has the same list, and the same tasks wait for pages. -/
structure SameList (s s' : Session α) : Prop where
  list : s'.screen.list = s.screen.list
  waits : ∀ t, t.awaited.isPage = true → (t ∈ s'.waiting ↔ t ∈ s.waiting)

theorem SameList.refl (s : Session α) : SameList s s := ⟨rfl, fun _ _ => Iff.rfl⟩

variable [Entity α] {s : Session α} {e : Event}

/-- What a step of the list half does, in every session with the same list. -/
structure ListMove (s : Session α) (e : Event) (list : PagedList α) (m : Move) : Prop where
  fits : m.Fits s
  within : m.Within true
  silent : m.told = []
  step : ∀ s', Apart s' → SameList s s' →
    s'.step e = ({ m.apply s' with screen := { s'.screen with list } }, m.notes s'.tasks s'.calls)

omit [Entity α] in
/-- Once a call is answered, everybody else goes on waiting. -/
theorem Apart.forget_eq {task : Task} (apart : Apart s) (waits : task ∈ s.waiting) :
    s.forget task.call = { s with waiting := s.waiting.filter (· ≠ task) } := by
  have hsame : s.waiting.filter (·.call ≠ task.call) = s.waiting.filter (· ≠ task) :=
    List.filter_congr fun t ht =>
      decide_eq_decide.mpr (not_congr ⟨apart.call_inj t ht task waits, fun h => h ▸ rfl⟩)
  rw [forget, hsame]

omit [Entity α] in
/-- Once a task is given up, everybody else goes on waiting. -/
theorem Apart.drop_eq {task : Task} (apart : Apart s) (waits : task ∈ s.waiting) :
    s.waiting.filter (·.number ≠ task.number) = s.waiting.filter (· ≠ task) :=
  List.filter_congr fun t ht =>
    decide_eq_decide.mpr (not_congr ⟨apart.number_inj t ht task waits, fun h => h ▸ rfl⟩)

/-- An answer to a query for which nobody waits is ignored. -/
theorem step_page_of_none {call : Nat}
    (none : ∀ t ∈ s.waiting, t.awaited.isPage = true → t.call ≠ call)
    (answer : Except PortalError QueryResponse) : s.step (.answerQuery call answer) = (s, []) := by
  simp only [step]
  split
  · next task hf =>
      obtain ⟨hmem, hcall⟩ := mem_of_find? hf
      split
      · next ticket deleted awaited =>
          exact absurd hcall (none task hmem (by rw [awaited]; rfl))
      · rfl
  · rfl

theorem exists_listMove (h : s.ListSide e) : ∃ list m, ListMove s e list m := by
  cases e with
  | query params =>
      refine ⟨s.screen.list.begin params,
        { begins := true
          sends := some (.query (Entity.kind α) (params.getD s.screen.list.view.query),
            .page (s.screen.list.issued + 1) none) }, ?_⟩
      exact {
        fits := ⟨by simp, by simp, by simp, by simp⟩
        within := ⟨by simp, by simp [Awaited.isPage]⟩
        silent := rfl
        step := fun s' _ same => by
          simp only [step, fetch, await, ← same.list]
          rfl }
  | answerQuery call answer =>
      by_cases hpage : ∃ task ∈ s.waiting, task.call = call ∧ task.awaited.isPage = true
      · obtain ⟨task, waits, rfl, hpage⟩ := hpage
        cases awaited : task.awaited with
        | receipt id => simp [awaited, Awaited.isPage] at hpage
        | page ticket deleted =>
            refine ⟨(s.screen.list.settle ticket (Page.ofAnswer answer)).1,
              { done := some task
                ending := some (pageEnding deleted
                  (s.screen.list.settle ticket (Page.ofAnswer answer)).2) }, ?_⟩
            exact {
              fits := ⟨by simp [waits], by simp, by simp, by simp⟩
              within := ⟨by simp [hpage], by simp⟩
              silent := rfl
              step := fun s' apart' same => by
                have waits' := (same.waits task hpage).mpr waits
                rw [step_page apart'.toCallsApart waits' awaited, apart'.forget_eq waits',
                  ← same.list]
                simp [Move.apply, Move.rest, Move.opened, Move.notes, Move.called, Move.ended] }
      · -- nobody waits for that page, in whatever session
        refine ⟨s.screen.list, {}, ?_⟩
        exact {
          fits := ⟨by simp, by simp, by simp, by simp⟩
          within := ⟨by simp, by simp⟩
          silent := rfl
          step := fun s' _ same => by
            rw [step_page_of_none fun t ht hp hcall =>
              hpage ⟨t, (same.waits t hp).mp ht, hcall, hp⟩, ← same.list]
            simp [Move.apply, Move.rest, Move.opened, Move.notes, Move.called, Move.ended] }
  | drop number =>
      obtain ⟨task, waits, rfl, hpage⟩ := h
      refine ⟨s.screen.list, { done := some task }, ?_⟩
      exact {
        fits := ⟨by simp [waits], by simp, by simp, by simp⟩
        within := ⟨by simp [hpage], by simp⟩
        silent := rfl
        step := fun s' apart' same => by
          have waits' := (same.waits task hpage).mpr waits
          rw [step, apart'.drop_eq waits', ← same.list]
          simp [Move.apply, Move.rest, Move.opened, Move.notes, Move.called, Move.ended] }
  | remove | confirm | cancel | answerDelete | closeUi => exact h.elim

/-! ## the moves of the delete half -/

/-- Another session has the same delete under way, and the same tasks wait for receipts. -/
structure SameDelete (s s' : Session α) : Prop where
  stage : s'.screen.stage = s.screen.stage
  error : s'.screen.deleteError = s.screen.deleteError
  token : s'.token = s.token
  uiOpen : s'.uiOpen = s.uiOpen
  waits : ∀ t, t.awaited.isPage = false → (t ∈ s'.waiting ↔ t ∈ s.waiting)

omit [Entity α] in
theorem SameDelete.refl (s : Session α) : SameDelete s s :=
  ⟨rfl, rfl, rfl, rfl, fun _ _ => Iff.rfl⟩

/-- What a step of the delete half does, in every session with the same delete under way. -/
structure DeleteMove (s : Session α) (e : Event) (stage : DeleteStage)
    (deleteError : Option PortalError) (m : Move) : Prop where
  fits : m.Fits s
  within : m.Within false
  step : ∀ s', Apart s' → SameDelete s s' →
    s'.step e = ({ m.apply s' with screen := { s'.screen with stage, deleteError } },
      m.notes s'.tasks s'.calls)

/-- An answer to a delete for which nobody waits is ignored. -/
theorem step_receipt_of_none {call : Nat}
    (none : ∀ t ∈ s.waiting, t.awaited.isPage = false → t.call ≠ call)
    (answer : Except PortalError Unit) : s.step (.answerDelete call answer) = (s, []) := by
  simp only [step]
  split
  · next task hf =>
      obtain ⟨hmem, hcall⟩ := mem_of_find? hf
      split
      · next id awaited => exact absurd hcall (none task hmem (by rw [awaited]; rfl))
      · rfl
  · rfl

omit [Entity α] in
/-- Who has the same delete under way has the same stage and error. -/
theorem SameDelete.screen_eq {s' : Session α} (same : SameDelete s s') :
    { s'.screen with stage := s.screen.stage, deleteError := s.screen.deleteError } =
      s'.screen := by
  rw [← same.stage, ← same.error]

/-- A step in which no task has a part. -/
theorem deleteMove_of_told {stage : DeleteStage} {deleteError : Option PortalError}
    (told : List Note) (plain : ∀ r : Renumbering, told.map r.note = told)
    (h : ∀ s', SameDelete s s' →
      s'.step e = ({ s' with screen := { s'.screen with stage, deleteError } }, told)) :
    DeleteMove s e stage deleteError { told } where
  fits := ⟨by simp, by simp, by simp, plain⟩
  within := ⟨by simp, by simp⟩
  step := fun s' _ same => by
    rw [h s' same]
    simp [Move.apply, Move.rest, Move.opened, Move.notes, Move.called, Move.ended]

theorem exists_deleteMove (h : e.DeleteSide) :
    ∃ stage deleteError m, DeleteMove s e stage deleteError m := by
  cases e with
  | remove id =>
      cases hstage : s.screen.stage with
      | inFlight other =>
          refine ⟨s.screen.stage, s.screen.deleteError, _,
            deleteMove_of_told [.removed false] (fun _ => rfl) fun s' same => ?_⟩
          simp only [step, ListScreen.remove, same.stage.trans hstage, same.screen_eq]
      | idle | staged other =>
          refine ⟨.staged id, none, _,
            deleteMove_of_told [s.emit (.requestConfirmation id), .removed true]
              (fun _ => rfl) fun s' same => ?_⟩
          simp only [step, ListScreen.remove, same.stage.trans hstage, emit, same.uiOpen]
  | cancel =>
      cases hstage : s.screen.stage with
      | staged id =>
          refine ⟨.idle, s.screen.deleteError, _,
            deleteMove_of_told [s.emit .closeConfirmation]
              (fun _ => rfl) fun s' same => ?_⟩
          simp only [step, ListScreen.cancel, same.stage.trans hstage, emit, same.uiOpen,
            ← same.error]
      | idle | inFlight id =>
          refine ⟨s.screen.stage, s.screen.deleteError, _,
            deleteMove_of_told [] (fun _ => rfl) fun s' same => ?_⟩
          simp only [step, ListScreen.cancel, same.stage.trans hstage, same.screen_eq]
  | confirm =>
      cases hstage : s.screen.stage with
      | staged id =>
          refine ⟨.inFlight id, s.screen.deleteError,
            { begins := true
              sends := some (.delete (Entity.kind α) id s.token, .receipt id) }, ?_⟩
          exact {
            fits := ⟨by simp, by simp, by simp, by simp⟩
            within := ⟨by simp, by simp [Awaited.isPage]⟩
            step := fun s' _ same => by
              rw [step_confirm (same.stage.trans hstage), ← same.token, ← same.error]
              rfl }
      | idle | inFlight id =>
          refine ⟨s.screen.stage, s.screen.deleteError,
            { begins := true, ending := some (.confirmed none) }, ?_⟩
          exact {
            fits := ⟨by simp, by simp, by simp, by simp⟩
            within := ⟨by simp, by simp⟩
            step := fun s' _ same => by
              rw [step_confirm_of_not_staged (by simp [same.stage, hstage]), same.screen_eq]
              simp [Move.apply, Move.rest, Move.opened, Move.notes, Move.called, Move.ended] }
  | answerDelete call answer =>
      cases answer with
      | ok => exact h.elim
      | error failure =>
          by_cases hreceipt : ∃ task ∈ s.waiting, task.call = call ∧ task.awaited.isPage = false
          · obtain ⟨task, waits, rfl, hreceipt⟩ := hreceipt
            cases awaited : task.awaited with
            | page ticket deleted => simp [awaited, Awaited.isPage] at hreceipt
            | receipt id =>
                refine ⟨.staged id, some failure,
                  { done := some task
                    told := [s.emit (.requestConfirmation id)]
                    ending := some (.confirmFailed failure) }, ?_⟩
                exact {
                  fits := ⟨by simp [waits], by simp, by simp, fun _ => rfl⟩
                  within := ⟨by simp [hreceipt], by simp⟩
                  step := fun s' apart' same => by
                    have waits' := (same.waits task hreceipt).mpr waits
                    rw [step_receipt_error apart'.toCallsApart waits' awaited,
                      apart'.forget_eq waits', emit, emit, ← same.uiOpen]
                    simp [Move.apply, Move.rest, Move.opened, Move.notes, Move.called,
                      Move.ended] }
          · refine ⟨s.screen.stage, s.screen.deleteError, _,
              deleteMove_of_told [] (fun _ => rfl) fun s' same => ?_⟩
            rw [step_receipt_of_none fun t ht hp hcall =>
              hreceipt ⟨t, (same.waits t hp).mp ht, hcall, hp⟩, same.screen_eq]
  | query | answerQuery | drop | closeUi => exact h.elim

/-! ## either order -/

/-- What a step of each half comes to if the first comes first and if the second
does: the same, but for the numbers of what the two steps begin. -/
structure EitherWay (r : Renumbering) (s : Session α) (first second : Event) : Prop where
  keeps : r.Keeps s
  /-- The list, and the delete under way. -/
  screen : ((s.step first).1.step second).1.screen = ((s.step second).1.step first).1.screen
  /-- The tasks that wait. -/
  waiting : (((s.step first).1.step second).1.waiting.map r.task).Perm
    ((s.step second).1.step first).1.waiting
  /-- The numbers given out. -/
  counts : ((s.step first).1.step second).1.tasks = ((s.step second).1.step first).1.tasks ∧
    ((s.step first).1.step second).1.calls = ((s.step second).1.step first).1.calls
  /-- What is seen of the first step: its call, its result, its commands. -/
  firstNotes : (s.step first).2.map r.note = ((s.step second).1.step first).2
  /-- What is seen of the second one. -/
  secondNotes : ((s.step first).1.step second).2.map r.note = (s.step second).2

theorem Apart.keeps {s' : Session α} {new : List Entry} (h : Apart s) (t : Transition s e s' new) :
    Apart s' :=
  ⟨h.toCallsApart.keeps t, h.toNumbersApart.keeps t⟩

theorem apart_run (token : CsrfToken) (es : List Event) :
    Apart ((opened token : Session α).run es).1 :=
  ⟨callsApart_run token es, numbersApart_run token es⟩

omit [Entity α] in
/-- A move that tells nothing sends no command. -/
theorem Move.commands_eq {m : Move} (silent : m.told = []) (task call : Nat) :
    (m.notes task call).filterMap Note.command? = [] := by
  rw [notes, silent, called, ended]
  cases m.sends <;> cases m.ending <;> rfl

/-- A step of the list half leaves the delete that is under way, and tells the
user interface nothing. -/
theorem step_listSide (apart : Apart s) (h : s.ListSide e) :
    (s.step e).1.screen = { s.screen with list := (s.step e).1.screen.list } ∧
      (s.step e).2.filterMap Note.command? = [] := by
  obtain ⟨list, m, hm⟩ := exists_listMove h
  rw [hm.step s apart (.refl s)]
  exact ⟨rfl, Move.commands_eq hm.silent ..⟩

/-- A step of the delete half leaves the list. -/
theorem step_deleteSide (apart : Apart s) (h : e.DeleteSide) :
    (s.step e).1.screen.list = s.screen.list := by
  obtain ⟨stage, deleteError, m, hm⟩ := exists_deleteMove (s := s) h
  rw [hm.step s apart (.refl s)]

namespace EitherWay

variable {r : Renumbering} {first second : Event}

/-- The user interface is told the same, if only the second step has something to tell. -/
theorem commands_eq (h : EitherWay r s first second)
    (quiet : (s.step first).2.filterMap Note.command? = []) :
    ((s.step first).2 ++ ((s.step first).1.step second).2).filterMap Note.command? =
      ((s.step second).2 ++ ((s.step second).1.step first).2).filterMap Note.command? := by
  have hcommand : Note.command? ∘ r.note = Note.command? := funext r.command?_note
  rw [← h.firstNotes, ← h.secondNotes, List.filterMap_append, List.filterMap_append,
    List.filterMap_map, List.filterMap_map, hcommand, quiet, List.nil_append, List.append_nil]

/-- The portal is asked for the same. -/
theorem made_perm (h : EitherWay r s first second) :
    (((s.step first).2 ++ ((s.step first).1.step second).2).filterMap Note.made?).Perm
      (((s.step second).2 ++ ((s.step second).1.step first).2).filterMap Note.made?) := by
  have hmade : Note.made? ∘ r.note = Note.made? := funext r.made?_note
  rw [← h.firstNotes, ← h.secondNotes, List.filterMap_append, List.filterMap_append,
    List.filterMap_map, List.filterMap_map, hmade]
  exact List.perm_append_comm

end EitherWay

/-- **Steps of the two halves commute.** -/
theorem exists_eitherWay (apart : Apart s) {l d : Event} (hl : s.ListSide l) (hd : d.DeleteSide) :
    ∃ r, EitherWay r s l d := by
  obtain ⟨list, m, hm⟩ := exists_listMove hl
  obtain ⟨stage, deleteError, k, hk⟩ := exists_deleteMove (s := s) hd
  have hl₀ := hm.step s apart (.refl s)
  have hd₀ := hk.step s apart (.refl s)
  -- behind the step of one half, the other half takes the step that it would have taken
  have hd₁ := hk.step (s.step l).1 (apart.keeps (transition s l)) (by
    rw [hl₀]
    exact ⟨rfl, rfl, rfl, rfl, fun t ht => hm.within.mem_apply (by simp [ht])⟩)
  have hl₁ := hm.step (s.step d).1 (apart.keeps (transition s d)) (by
    rw [hd₀]
    exact ⟨rfl, fun t ht => hk.within.mem_apply (by simp [ht])⟩)
  refine ⟨Move.exchange m k s, Move.keeps_exchange, ?_, ?_, ?_, ?_, ?_⟩
  · rw [hd₁, hl₁, hd₀, hl₀]
  · rw [hd₁, hl₁, hd₀, hl₀]
    exact Move.waiting_comm apart hm.fits hk.fits
  · rw [hd₁, hl₁, hd₀, hl₀]
    exact ⟨Nat.add_right_comm .., Nat.add_right_comm ..⟩
  · rw [hl₁, hl₀, hd₀]
    exact Move.map_notes apart hm.fits Move.keeps_exchange turned_first turned_first
  · rw [hd₁, hl₀, hd₀]
    exact Move.map_notes apart hk.fits Move.keeps_exchange turned_second turned_second

/-- Behind a step of the delete half, a step of the list half still is one. -/
theorem ListSide.step {l d : Event} (hl : s.ListSide l) (apart : Apart s) (hd : d.DeleteSide) :
    (s.step d).1.ListSide l := by
  cases l with
  | drop number =>
      obtain ⟨task, waits, hnumber, hpage⟩ := hl
      obtain ⟨stage, deleteError, k, hk⟩ := exists_deleteMove (s := s) hd
      rw [hk.step s apart (.refl s)]
      exact ⟨task, (hk.within.mem_apply (by simp [hpage])).mpr waits, hnumber, hpage⟩
  | _ => exact hl

/-- **The halves of a list screen do not disturb each other**, after whatever run.
A step of the list half leaves the record that is staged or being deleted, whether
a delete is in flight and its error, and tells the user interface nothing; a step
of the delete half leaves the list, with everything that is shown and everything
that those who watch it are told.

So a step of each half can be taken in either order.  The screen is the same
afterwards and so are, but for the numbers that the two steps give out, the tasks
that wait and what is seen of each step: its result, its call, its commands. -/
theorem halves_apart (token : CsrfToken) (es : List Event) :
    let s := ((opened token : Session α).run es).1
    (∀ e, s.ListSide e →
      (s.step e).1.screen.deletingId = s.screen.deletingId ∧
      (s.step e).1.screen.deleteInFlight = s.screen.deleteInFlight ∧
      (s.step e).1.screen.deleteError = s.screen.deleteError ∧
      (s.step e).2.filterMap Note.command? = []) ∧
    (∀ e, e.DeleteSide → (s.step e).1.screen.list = s.screen.list) ∧
    ∀ l d, s.ListSide l → d.DeleteSide →
      let listFirst := (s.step l).2 ++ ((s.step l).1.step d).2
      let deleteFirst := (s.step d).2 ++ ((s.step d).1.step l).2
      (s.step d).1.ListSide l ∧ (∃ r, EitherWay r s l d) ∧
      listFirst.filterMap Note.command? = deleteFirst.filterMap Note.command? ∧
      (listFirst.filterMap Note.made?).Perm (deleteFirst.filterMap Note.made?) := by
  intro s
  have apart : Apart s := apart_run token es
  refine ⟨fun e he => ?_, fun e => step_deleteSide apart, fun l d hl hd => ?_⟩
  · obtain ⟨hscreen, hquiet⟩ := step_listSide apart he
    rw [hscreen]
    exact ⟨rfl, rfl, rfl, hquiet⟩
  · obtain ⟨r, either⟩ := exists_eitherWay apart hl hd
    exact ⟨hl.step apart hd, ⟨r, either⟩, either.commands_eq (step_listSide apart hl).2,
      either.made_perm⟩

/-- A query starts beside a confirmation, and the query before it is given up
beside the failure of the delete: both ways round it comes to the same. -/
theorem halves_apart_confirm :
    let s := ((opened ⟨"t"⟩ : Session Alert).run [.query none, .remove "a"]).1
    let second : Event := .query (some (.ofPage 2))
    let s' := ((opened ⟨"t"⟩ : Session Alert).run [.query none, .remove "a", .confirm]).1
    let failure : Event := .answerDelete 1 (.error (.network "down"))
    s.ListSide second ∧ Event.DeleteSide .confirm ∧ (∃ r, EitherWay r s second .confirm) ∧
      ((s.step second).1.step .confirm).1.waiting ≠ ((s.step .confirm).1.step second).1.waiting ∧
      s'.ListSide (.drop 0) ∧ failure.DeleteSide ∧ (∃ r, EitherWay r s' (.drop 0) failure) ∧
      (s'.step (.drop 0)).1.screen.deleteInFlight = s'.screen.deleteInFlight ∧
      (s'.step failure).1.screen.list = s'.screen.list := by
  intro s second s' failure
  have waits : s'.ListSide (.drop 0) := ⟨⟨0, 0, .page 1 none⟩, .head _, rfl, rfl⟩
  have early := halves_apart (α := Alert) ⟨"t"⟩ [.query none, .remove "a"]
  have late := halves_apart (α := Alert) ⟨"t"⟩ [.query none, .remove "a", .confirm]
  exact ⟨trivial, trivial, (early.2.2 second .confirm trivial trivial).2.1, by decide, waits,
    trivial, (late.2.2 (.drop 0) failure waits trivial).2.1, (late.1 (.drop 0) waits).2.1,
    late.2.1 failure trivial⟩

end Session

end AlertDesk.ListScreen
