import AlertDesk.Proofs.ListScreen.Log
import AlertDesk.Record.Alert

/-!
# AlertDesk.Proofs.ListScreen.Dialog

The confirmation dialog of a list screen.  The user interface shows what the
last command told it to show, so the dialog is right if that command and the
stage of the screen are about the same record (`Mirrored`).  A transition either
leaves the stage and sends no command, or changes it and sends the one command
that goes with it.

The commands are all that a user interface is for: a run goes the same way
whenever it stops listening (`run_filter`).

Main fact: `dialog_mirrors_stage` — after every run the dialog is open for the
record that the screen holds, and for none if it holds none.
-/

namespace AlertDesk

/-- The record that a command opens a dialog for. -/
def UiCommand.asked? : UiCommand → Option String
  | .requestConfirmation id => some id
  | .closeConfirmation | .navigate _ => none

namespace ListScreen

/-! ## the command sent last -/

/-- The command that was sent last to the user interface, whether or not it was taken in. -/
def lastCommand (log : List Entry) : Option UiCommand := (log.filterMap Entry.command?).getLast?

variable {log new : List Entry} {c : UiCommand}

@[simp] theorem lastCommand_nil : lastCommand [] = none := rfl

theorem lastCommand_append_of_none (h : new.filterMap Entry.command? = []) :
    lastCommand (log ++ new) = lastCommand log := by
  rw [lastCommand, List.filterMap_append, h, List.append_nil, lastCommand]

theorem lastCommand_append (h : new.filterMap Entry.command? = [c]) :
    lastCommand (log ++ new) = some c := by
  rw [lastCommand, List.filterMap_append, h, List.getLast?_concat]

theorem mem_commands_of_last (h : lastCommand log = some c) : c ∈ log.filterMap Entry.command? :=
  List.mem_of_getLast? h

/-- A note without whether the user interface was there to take a command in. -/
def Note.sent : Note → Note
  | .emitted c _ => .emitted c true
  | n => n

/-- Whether the event is that the user interface stops listening. -/
def Event.closesUi : Event → Bool
  | .closeUi => true
  | _ => false

namespace Session

variable {α : Type} {s s' : Session α}

/-! ## the dialog against the stage -/

/-- How a session agrees with its log about the dialog. -/
structure Mirrored (s : Session α) (log : List Entry) : Prop where
  dialog : s.screen.deletingId = (lastCommand log).bind UiCommand.asked?
  /-- Nobody is sent anywhere. -/
  stays : ∀ route, .navigate route ∉ log.filterMap Entry.command?

theorem mirrored_opened (token : CsrfToken) : Mirrored (opened token : Session α) [] where
  dialog := rfl
  stays := by simp

/-- A step that sends no command and leaves the record that the screen holds. -/
theorem Mirrored.quiet (h : Mirrored s log) (hnew : new.filterMap Entry.command? = [])
    (hstage : s'.screen.deletingId = s.screen.deletingId) : Mirrored s' (log ++ new) where
  dialog := by rw [hstage, h.dialog, lastCommand_append_of_none hnew]
  stays := by
    rw [List.filterMap_append, hnew, List.append_nil]
    exact h.stays

/-- A step that sends the command for the record it leaves the screen with. -/
theorem Mirrored.told (h : Mirrored s log) (hnew : new.filterMap Entry.command? = [c])
    (hstays : ∀ route, c ≠ .navigate route) (hstage : s'.screen.deletingId = c.asked?) :
    Mirrored s' (log ++ new) where
  dialog := by rw [hstage, lastCommand_append hnew, Option.bind_some]
  stays := fun route hmem => by
    rw [List.filterMap_append, hnew, List.mem_append, List.mem_singleton] at hmem
    obtain hmem | hc := hmem
    · exact h.stays route hmem
    · exact hstays route hc.symm

theorem Mirrored.deletingId_eq_some_iff (h : Mirrored s log) (id : String) :
    s.screen.deletingId = some id ↔ lastCommand log = some (.requestConfirmation id) := by
  rw [h.dialog]
  cases lastCommand log with
  | none => simp
  | some c => cases c <;> simp [UiCommand.asked?]

theorem Mirrored.deletingId_eq_none_iff (h : Mirrored s log) :
    s.screen.deletingId = none ↔
      lastCommand log = none ∨ lastCommand log = some .closeConfirmation := by
  rw [h.dialog]
  cases hlast : lastCommand log with
  | none => simp
  | some c =>
      cases c with
      | navigate route => exact absurd (mem_commands_of_last hlast) (h.stays route)
      | requestConfirmation id => simp [UiCommand.asked?]
      | closeConfirmation => simp [UiCommand.asked?]

variable [Entity α]

/-- **Every transition keeps the dialog in agreement with the stage.** -/
theorem Mirrored.keeps (h : Mirrored s log) {e : Event} (t : Transition s e s' new) :
    Mirrored s' (log ++ new) := by
  cases t with
  | queried params => exact h.quiet rfl rfl
  | refused id other stage => exact h.quiet rfl rfl
  | staged id stage => exact h.told (c := .requestConfirmation id) rfl (by simp) rfl
  | nothingToSend stage => exact h.quiet rfl rfl
  | sent id stage =>
      -- the record goes from staged to in flight, and stays in the dialog
      exact h.quiet rfl (by simp [ListScreen.deletingId, DeleteStage.id?, stage])
  | nothingToCancel stage => exact h.quiet rfl rfl
  | cancelled id stage => exact h.told (c := .closeConfirmation) rfl (by simp) rfl
  | settled task ticket deleted answer waits awaited => exact h.quiet rfl rfl
  | failed task id e waits awaited =>
      exact h.told (c := .requestConfirmation id) rfl (by simp) rfl
  | deleted task id waits awaited => exact h.told (c := .closeConfirmation) rfl (by simp) rfl
  | strayPage call answer => exact h.quiet rfl rfl
  | strayReceipt call answer => exact h.quiet rfl rfl
  | dropped task => exact h.quiet rfl rfl
  | uiClosed => exact h.quiet rfl rfl

theorem mirrored_run (token : CsrfToken) (es : List Event) :
    Mirrored ((opened token : Session α).run es).1 ((opened token : Session α).log es) :=
  run_induction (mirrored_opened token) (fun h t => h.keeps t) es

/-! ## a user interface that does not listen -/

/-- Whether anybody listens makes no difference to a step. -/
theorem step_uiOpen (s : Session α) (b : Bool) {e : Event} (he : e.closesUi = false) :
    ({ s with uiOpen := b }.step e).1 = { (s.step e).1 with uiOpen := b } ∧
      ({ s with uiOpen := b }.step e).2.map Note.sent = (s.step e).2.map Note.sent := by
  cases e with
  | query params => exact ⟨rfl, rfl⟩
  | remove id => simp only [step]; split <;> exact ⟨rfl, rfl⟩
  | confirm => simp only [step]; split <;> exact ⟨rfl, rfl⟩
  | cancel => simp only [step]; split <;> exact ⟨rfl, rfl⟩
  | answerQuery call answer =>
      simp only [step, find?]
      split
      · split <;> exact ⟨rfl, rfl⟩
      · exact ⟨rfl, rfl⟩
  | answerDelete call answer =>
      simp only [step, find?]
      split
      · split
        · cases answer <;> exact ⟨rfl, rfl⟩
        · exact ⟨rfl, rfl⟩
      · exact ⟨rfl, rfl⟩
  | drop task => exact ⟨rfl, rfl⟩
  | closeUi => contradiction

/-- **A run goes the same way whenever the user interface stops listening.** -/
theorem run_filter (s : Session α) (b : Bool) (es : List Event) :
    ∃ b', ({ s with uiOpen := b }.run es).1 =
        { (s.run (es.filter fun e => !e.closesUi)).1 with uiOpen := b' } ∧
      ({ s with uiOpen := b }.run es).2.map Note.sent =
        (s.run (es.filter fun e => !e.closesUi)).2.map Note.sent := by
  induction es generalizing s b with
  | nil => exact ⟨b, rfl, rfl⟩
  | cons e es ih =>
      cases he : e.closesUi with
      | true =>
          obtain rfl : e = .closeUi := by cases e <;> simp_all [Event.closesUi]
          simpa [run_cons, he] using ih s false
      | false =>
          obtain ⟨hstep, hnotes⟩ := step_uiOpen s b he
          obtain ⟨b', hrun, hmore⟩ := ih (s.step e).1 b
          refine ⟨b', ?_, ?_⟩
          · simp [he, run_cons, hstep, hrun]
          · simp [he, run_cons, hstep, hnotes, hmore]

/-- **The dialog mirrors the stage.**  After every run of a list screen the
screen holds a record exactly if the last command was to ask about it, and holds
none exactly if there was no command or the last one was to stop asking; no
command leads away from the screen.

Another run that differs only in when the user interface stops listening leaves
the same session behind, with the same calls, results and commands on the way. -/
theorem dialog_mirrors_stage (token : CsrfToken) (es : List Event) :
    let s := ((opened token : Session α).run es).1
    let log := (opened token : Session α).log es
    (∀ id, s.screen.deletingId = some id ↔ lastCommand log = some (.requestConfirmation id)) ∧
    (s.screen.deletingId = none ↔
      lastCommand log = none ∨ lastCommand log = some .closeConfirmation) ∧
    (∀ route, .navigate route ∉ log.filterMap Entry.command?) ∧
    ∀ es', (es'.filter fun e => !e.closesUi) = (es.filter fun e => !e.closesUi) →
      (∃ b, ((opened token : Session α).run es').1 = { s with uiOpen := b }) ∧
        ((opened token : Session α).run es').2.map Note.sent =
          ((opened token : Session α).run es).2.map Note.sent := by
  intro s log
  have h : Mirrored s log := mirrored_run token es
  refine ⟨h.deletingId_eq_some_iff, h.deletingId_eq_none_iff, h.stays, fun es' hes => ?_⟩
  obtain ⟨b, hrun, hnotes⟩ := run_filter (opened token : Session α) true es
  obtain ⟨b', hrun', hnotes'⟩ := run_filter (opened token : Session α) true es'
  rw [hes] at hrun' hnotes'
  have hs : s = { ((opened token : Session α).run (es.filter fun e => !e.closesUi)).1 with
      uiOpen := b } := hrun
  exact ⟨⟨b', hs ▸ hrun'⟩, hnotes'.trans hnotes.symm⟩

/-- The user interface stops listening before the record is staged, or between
the delete and its failure: either way the dialog was last asked to open again. -/
theorem dialog_mirrors_stage_closed :
    let failure : Event := .answerDelete 0 (.error (.network "down"))
    let early : List Event := [.closeUi, .remove "a", .confirm, failure]
    let late : List Event := [.remove "a", .confirm, .closeUi, failure]
    let s := ((opened ⟨"t"⟩ : Session Alert).run early).1
    s.screen.deletingId = some "a" ∧
      lastCommand ((opened ⟨"t"⟩ : Session Alert).log early) = some (.requestConfirmation "a") ∧
      (late.filter fun e => !e.closesUi) = (early.filter fun e => !e.closesUi) ∧
      (∃ b, ((opened ⟨"t"⟩ : Session Alert).run late).1 = { s with uiOpen := b }) ∧
      ((opened ⟨"t"⟩ : Session Alert).run late).2.map Note.sent =
        ((opened ⟨"t"⟩ : Session Alert).run early).2.map Note.sent := by
  intro failure early late s
  obtain ⟨hasked, -, -, hsame⟩ := dialog_mirrors_stage (α := Alert) ⟨"t"⟩ early
  have hstage : s.screen.deletingId = some "a" := rfl
  exact ⟨hstage, (hasked "a").mp hstage, rfl, hsame late rfl⟩

end Session

end ListScreen

end AlertDesk
