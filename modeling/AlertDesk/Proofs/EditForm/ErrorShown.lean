import AlertDesk.Proofs.EditForm.Course
import AlertDesk.Proofs.Split
import AlertDesk.Record.Alert
import AlertDesk.Reply

/-!
# AlertDesk.Proofs.EditForm.ErrorShown

When a form shows an error.  Loads and saves that the portal refuses leave the
form open, with the error beside it, and everything else that moves a form on
takes the error away.  A save that is refused because the record has no
identifier is the exception: it puts the error beside the form and leaves the
phase as it finds it, be it loading, saving or done.

`Course.misplaced_iff` says so of one action; an edit changes neither phase nor error,
so that over a whole session the last action that is no edit decides.

Main fact: `error_on_open_form` — an error is shown on an open form only, unless
the last action but for edits was such a save from a form that was not open.
-/

namespace AlertDesk.EditForm

variable {α σ : Type} [Entity α]

/-! ## forms after some actions -/

/-- The form and the portal after some actions. -/
def after (portal : Portal σ) (token : CsrfToken) (f : EditForm α) (p : σ) :
    List (Action α) → EditForm α × σ
  | [] => (f, p)
  | a :: as =>
    let t := f.act portal token p a
    after portal token t.form t.portal as

variable {portal : Portal σ} {token : CsrfToken} {f : EditForm α} {p : σ}

theorem after_concat (as : List (Action α)) (a : Action α) :
    (after portal token f p (as ++ [a])).1 =
      ((after portal token f p as).1.act portal token (after portal token f p as).2 a).form := by
  induction as generalizing f p with
  | nil => rfl
  | cons b as ih => exact ih

/-! ## one action -/

/-- The form shows an error and is not open. -/
def Misplaced (f : EditForm α) : Prop := f.error ≠ none ∧ f.phase ≠ .editing

omit [Entity α] in
theorem not_misplaced_iff : ¬ Misplaced f ↔ (f.error ≠ none → f.phase = .editing) := by
  rw [Misplaced, not_and_not_right]

/-- **How an error comes to be misplaced**: by saving a record without identifier
from a form that is not open, and from then on by editing it. -/
theorem Course.misplaced_iff {a : Action α} {t : Turn α σ} (h : Course portal token f p a t) :
    Misplaced t.form ↔ (a = .save ∧ Entity.id f.record = "" ∧ f.phase ≠ .editing) ∨
      (a.isEdit = true ∧ Misplaced f) := by
  cases h with
  | refused unnamed => simp [Misplaced, Action.isEdit, unnamed]
  | saving named | saved named | unsaved named => simp [Misplaced, Action.isEdit, named]
  | _ => simp [Misplaced, Action.isEdit]

/-- A save that fails puts its error beside the form, and opens the form if the
record has an identifier. -/
theorem Course.failed_save {t : Turn α σ} {e : PortalError} (h : Course portal token f p .save t)
    (hfailed : t.result = some (.error e)) :
    t.form.error = some e ∧
      t.form.phase = if Entity.id f.record = "" then f.phase else .editing := by
  cases h with
  | refused unnamed =>
      obtain rfl : idMissing (Entity.kind α) = e := by simpa using hfailed
      exact ⟨rfl, (if_pos unnamed).symm⟩
  | saving | saved => simp at hfailed
  | unsaved named e' =>
      obtain rfl : e' = e := by simpa using hfailed
      exact ⟨rfl, (if_neg named).symm⟩

/-! ## a whole session -/

/-- **The last action that is no edit decides whether an error is misplaced.** -/
theorem misplaced_after (hopen : ¬ Misplaced f) (as : List (Action α)) :
    Misplaced (after portal token f p as).1 ↔
      ∃ before edits, as = before ++ .save :: edits ∧ (∀ a ∈ edits, a.isEdit = true) ∧
        Entity.id (after portal token f p before).1.record = "" ∧
        (after portal token f p before).1.phase ≠ .editing := by
  induction as using List.reverseRecOn with
  | nil => simpa [after] using hopen
  | append_singleton as a ih =>
      rw [after_concat, (course a).misplaced_iff, ih, split_concat_all_iff]

/-- **An error is shown on an open form**, whatever has been done with the form
and whatever the portal answers, except if the last action that is no edit was
to save a record without identifier from a form that was not open.  A save that
fails puts its error beside the form; it opens the form if the record has an
identifier, and leaves the phase alone if it has none. -/
theorem error_on_open_form (portal : Portal σ) (token : CsrfToken) (p : σ)
    (as : List (Action α)) :
    let form := fun as => (after portal token initial p as).1
    (((form as).error ≠ none → (form as).phase = .editing) ↔
      ¬ ∃ before edits, as = before ++ .save :: edits ∧ (∀ a ∈ edits, a.isEdit = true) ∧
        Entity.id (form before).record = "" ∧ (form before).phase ≠ .editing) ∧
    ∀ q e, ((form as).save portal token q).result = some (.error e) →
      ((form as).save portal token q).form.error = some e ∧
      ((form as).save portal token q).form.phase =
        if Entity.id (form as).record = "" then (form as).phase else .editing := by
  intro form
  have hopen : ¬ Misplaced (initial : EditForm α) := by simp [Misplaced, initial]
  refine ⟨?_, fun q e => course_save.failed_save⟩
  rw [← not_misplaced_iff, misplaced_after hopen]

/-- A form that has been left shows an error once it is saved, and so does one
whose load was given up, if the record that was looked for has no identifier. -/
theorem error_on_closed_form :
    let form := fun as => (after Reply.script ⟨"t"⟩ (initial : EditForm Alert) [] as).1
    let refused := some (idMissing .alert)
    ((form [.cancel, .save]).error = refused ∧ (form [.cancel, .save]).phase = .done ∧
      ((form [.cancel]).save Reply.script ⟨"t"⟩ []).result =
        some (.error (idMissing .alert))) ∧
    (form [.activate (some "") "f", .save]).error = refused ∧
      (form [.activate (some "") "f", .save]).phase = .loading :=
  ⟨⟨rfl, rfl, rfl⟩, rfl, rfl⟩

end AlertDesk.EditForm
