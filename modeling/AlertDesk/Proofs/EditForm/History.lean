import AlertDesk.EditForm.Screen
import AlertDesk.Proofs.EditForm.Course
import AlertDesk.Record.Alert
import AlertDesk.Record.OfKind

/-!
# AlertDesk.Proofs.EditForm.History

What a form on the screen tells of its history.  An error is shown for as long
as the load, save or leave that was made last is one that failed: one that goes
through, or is given up, takes the error away, and edits leave it.  The user
interface is led to the list once for every time that the form was left and once
for every save that went through, and told nothing else.

Both are read off the log, line by line: `Course` says what a line adds to
either, and an induction over the run adds the lines up.

Main fact: `form_follows_history`.
-/

namespace AlertDesk.EditForm

variable {α σ : Type}

/-! ## lines of a log -/

/-- The failure with which a turn came to its end. -/
def Turn.failure? (t : Turn α σ) : Option PortalError :=
  match t.result with
  | some (.error e) => some e
  | some (.ok ()) | none => none

theorem Turn.failure?_eq_some_iff {t : Turn α σ} {e : PortalError} :
    t.failure? = some e ↔ t.result = some (.error e) := by
  unfold failure?
  split <;> simp_all

/-- What an action may ask of the portal: a load asks for one record, a save asks to
put one at most, and nothing else asks for anything. -/
def Turn.AsksFor (t : Turn α σ) (kind : Kind) (token : CsrfToken) : Action α → Prop
  | .activate id _ => t.calls = (id.map fun id => Call.get kind id).toList
  | .save => t.calls = [] ∨ ∃ body, t.calls = [.upsert kind body token]
  | .edit _ | .cancel => t.calls = []

namespace Line

/-- The form was left without a save. -/
def isCancel (l : Line α σ) : Bool :=
  match l.action with
  | .cancel => true
  | .activate .. | .edit _ | .save => false

/-- A save went through. -/
def isSaved (l : Line α σ) : Bool :=
  match l.action, l.turn.result with
  | .save, some (.ok ()) => true
  | _, _ => false

end Line

/-- The load, save or leave that was made last: the last line that is no edit. -/
def lastCall (log : List (Line α σ)) : Option (Line α σ) :=
  (log.filter fun l => !l.action.isEdit).getLast?

theorem lastCall_append (a b : List (Line α σ)) :
    lastCall (a ++ b) = (lastCall b).or (lastCall a) := by
  rw [lastCall, List.filter_append, List.getLast?_append]
  rfl

/-! ## what a turn adds -/

section Turns

variable [Entity α] {portal : Portal σ} {token : CsrfToken} {f : EditForm α} {p : σ}
  {a : Action α} {t : Turn α σ}

/-- An edit leaves the error; behind every other action it is the failure of that action. -/
theorem Course.error_eq (h : Course portal token f p a t) :
    t.form.error = if a.isEdit then f.error else t.failure? := by
  cases h <;> rfl

/-- The user interface is led to the list by leaving, and by a save that goes through. -/
theorem Course.commands_eq (h : Course portal token f p a t) (heard : Bool) :
    t.commands = List.replicate
      ([Line.mk a t heard].countP Line.isCancel + [Line.mk a t heard].countP Line.isSaved)
      (.navigate (Entity.kind α).listRoute) := by
  cases h <;> rfl

theorem Course.asksFor (h : Course portal token f p a t) :
    t.AsksFor (Entity.kind α) token a := by
  cases h with
  | refused unnamed => exact .inl rfl
  | saving | saved | unsaved => exact .inr ⟨_, rfl⟩
  | _ => rfl

end Turns

/-! ## what a run adds up to -/

namespace Screen

variable [Entity α] {portal : Portal σ} {token : CsrfToken}

/-- Every line of a log is one of the courses. -/
theorem course_of_mem {s : Screen α σ} {es : List (Event α)} {l : Line α σ}
    (h : l ∈ (s.run portal token es).2) : ∃ f p, Course portal token f p l.action l.turn := by
  induction es generalizing s with
  | nil => contradiction
  | cons e es ih =>
      rw [run_cons] at h
      obtain hnew | hlater := List.mem_append.mp h
      · cases e with
        | act a =>
            obtain rfl := List.mem_singleton.mp hnew
            exact ⟨s.form, s.portal, course a⟩
        | closeUi => contradiction
      · exact ih hlater

/-- **The error that is shown** is the failure of what was called last. -/
theorem error_run (s : Screen α σ) (es : List (Event α)) :
    (s.run portal token es).1.form.error =
      ((lastCall (s.run portal token es).2).map fun l => l.turn.failure?).getD s.form.error := by
  induction es generalizing s with
  | nil => rfl
  | cons e es ih =>
      rw [run_cons, ih, lastCall_append]
      cases hlater : lastCall ((s.step portal token e).1.run portal token es).2 with
      | some l => rfl
      | none =>
          cases e with
          | closeUi => rfl
          | act a =>
              have herror : (s.form.act portal token s.portal a).form.error = _ :=
                (course a).error_eq
              cases ha : a.isEdit <;> simpa [lastCall, step, ha] using herror

/-- **Where the user interface is led**: to the list, whenever the form was left or saved. -/
theorem commands_run (s : Screen α σ) (es : List (Event α)) :
    (s.run portal token es).2.flatMap (fun l => l.turn.commands) =
      List.replicate ((s.run portal token es).2.countP Line.isCancel +
        (s.run portal token es).2.countP Line.isSaved) (.navigate (Entity.kind α).listRoute) := by
  induction es generalizing s with
  | nil => rfl
  | cons e es ih =>
      have hstep : (s.step portal token e).2.flatMap (fun l => l.turn.commands) =
          List.replicate ((s.step portal token e).2.countP Line.isCancel +
            (s.step portal token e).2.countP Line.isSaved)
            (.navigate (Entity.kind α).listRoute) := by
        cases e with
        | act a => exact (List.flatMap_singleton ..).trans ((course a).commands_eq s.uiOpen)
        | closeUi => rfl
      rw [run_cons, List.flatMap_append, List.countP_append, List.countP_append, hstep, ih,
        List.replicate_append_replicate]
      congr 1
      omega

end Screen

/-- **A form follows its history**, whatever is done with it, whatever the portal
answers, and whether or not the user interface listens.  It shows an error
exactly if the load, save or leave made last is one that came to its end with that
error.  The user interface was led to the list as often as the form was left and
as often as a save went through, and nowhere else.  A load asks the portal for at
most one record, a save asks it to put at most one, and nothing else asks for
anything.

The log has a line for every action, and tells of the turns that the form would
have taken if the user interface had never stopped listening. -/
theorem form_follows_history (k : Kind) (portal : Portal σ) (token : CsrfToken) (p : σ)
    (es : List (Event k.Record)) :
    let start : Screen k.Record σ := { form := initial, portal := p }
    let s := (start.run portal token es).1
    let log := (start.run portal token es).2
    (∀ e, s.form.error = some e ↔
      ∃ l, lastCall log = some l ∧ l.turn.result = some (.error e)) ∧
    log.flatMap (fun l => l.turn.commands) =
      List.replicate (log.countP Line.isCancel + log.countP Line.isSaved)
        (.navigate k.listRoute) ∧
    (∀ l ∈ log, l.turn.AsksFor k token l.action) ∧
    log.map Line.action = es.filterMap Event.action? ∧
      log.map Line.turn = turns portal token initial p (es.filterMap Event.action?) := by
  intro start s log
  have hkind := Kind.Record.kind_eq k
  refine ⟨fun e => ?_, ?_, fun l hl => ?_, Screen.turns_run start es⟩
  · have herror : s.form.error = ((lastCall log).map fun l => l.turn.failure?).getD none :=
      Screen.error_run start es
    rw [herror]
    cases lastCall log with
    | none => simp
    | some l => simp [Turn.failure?_eq_some_iff]
  · have hcommands : log.flatMap (fun l => l.turn.commands) =
        List.replicate (log.countP Line.isCancel + log.countP Line.isSaved)
          (.navigate (Entity.kind k.Record).listRoute) := Screen.commands_run start es
    rwa [hkind] at hcommands
  · obtain ⟨f, q, hcourse⟩ := Screen.course_of_mem hl
    have hasks := hcourse.asksFor
    rwa [hkind] at hasks

/-- The error of a refused save is gone once a load has begun, though nobody listens
and the portal never answers. -/
example (token : CsrfToken) :
    let silent : Portal Unit := fun _ p => (none, p)
    let start : Screen Alert Unit := { form := initial, portal := () }
    (start.run silent token [.act .save]).1.form.error = some (idMissing .alert) ∧
      (start.run silent token [.act .save, .closeUi, .act (.activate (some "a") "")]).1.form.error
        = none := ⟨rfl, rfl⟩

end AlertDesk.EditForm
