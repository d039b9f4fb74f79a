import AlertDesk.EditForm.Session

/-!
# AlertDesk.Proofs.EditForm.Course

What an action can do to a form.  `Course` says it once: every way in which a
load or a save can go, what the portal answered to it, and the turn that comes
of it as a whole.  What is shown of every action is shown against it.

Main fact: `course`, every turn is one of the courses.
-/

namespace AlertDesk.EditForm

variable {α σ : Type} [Entity α]

/-- What an action can do to a form, and the turn that comes of it. -/
inductive Course (portal : Portal σ) (token : CsrfToken) (f : EditForm α) (p : σ) :
    Action α → Turn α σ → Prop where
  | started (fresh : String) :
      Course portal token f p (.activate none fresh)
        { form := ⟨Entity.blank fresh, .editing, none⟩, result := some (.ok ()), portal := p }
  | loading (id fresh : String) (p' : σ)
      (unanswered : portal (.get (Entity.kind α) id) p = (none, p')) :
      Course portal token f p (.activate (some id) fresh)
        { form := ⟨Entity.blank id, .loading, none⟩, result := none
          calls := [.get (Entity.kind α) id], portal := p' }
  | loaded (id fresh : String) (answer : Except PortalError Json) (r : α) (p' : σ)
      (answered : portal (.get (Entity.kind α) id) p = (some answer, p'))
      (read : answer.bind Entity.decode = .ok r) :
      Course portal token f p (.activate (some id) fresh)
        { form := ⟨r, .editing, none⟩, result := some (.ok ())
          calls := [.get (Entity.kind α) id], portal := p' }
  | unloaded (id fresh : String) (answer : Except PortalError Json) (e : PortalError) (p' : σ)
      (answered : portal (.get (Entity.kind α) id) p = (some answer, p'))
      (unread : answer.bind (Entity.decode (α := α)) = .error e) :
      Course portal token f p (.activate (some id) fresh)
        { form := ⟨Entity.blank id, .editing, some e⟩, result := some (.error e)
          calls := [.get (Entity.kind α) id], portal := p' }
  | edited (change : α → α) :
      Course portal token f p (.edit change)
        { form := ⟨change f.record, f.phase, f.error⟩, result := some (.ok ()), portal := p }
  | refused (unnamed : Entity.id f.record = "") :
      Course portal token f p .save
        { form := ⟨f.record, f.phase, some (idMissing (Entity.kind α))⟩
          result := some (.error (idMissing (Entity.kind α))), portal := p }
  | saving (named : Entity.id f.record ≠ "") (p' : σ)
      (unanswered :
        portal (.upsert (Entity.kind α) (Entity.encode f.record) token) p = (none, p')) :
      Course portal token f p .save
        { form := ⟨f.record, .saving, none⟩, result := none
          calls := [.upsert (Entity.kind α) (Entity.encode f.record) token], portal := p' }
  | saved (named : Entity.id f.record ≠ "") (p' : σ)
      (answered :
        portal (.upsert (Entity.kind α) (Entity.encode f.record) token) p = (some (.ok ()), p')) :
      Course portal token f p .save
        { form := ⟨f.record, .done, none⟩, result := some (.ok ())
          calls := [.upsert (Entity.kind α) (Entity.encode f.record) token]
          commands := [.navigate (Entity.kind α).listRoute], portal := p' }
  | unsaved (named : Entity.id f.record ≠ "") (e : PortalError) (p' : σ)
      (answered : portal (.upsert (Entity.kind α) (Entity.encode f.record) token) p =
        (some (.error e), p')) :
      Course portal token f p .save
        { form := ⟨f.record, .editing, some e⟩, result := some (.error e)
          calls := [.upsert (Entity.kind α) (Entity.encode f.record) token], portal := p' }
  | cancelled :
      Course portal token f p .cancel
        { form := ⟨Entity.empty, .done, none⟩, result := some (.ok ())
          commands := [.navigate (Entity.kind α).listRoute], portal := p }

variable {portal : Portal σ} {token : CsrfToken} {f : EditForm α} {p : σ}

theorem course_activate (id : Option String) (fresh : String) :
    Course portal token f p (.activate id fresh) (f.activate portal id fresh p) := by
  cases id with
  | none => exact .started fresh
  | some id =>
      rcases h : portal (.get (Entity.kind α) id) p with ⟨answer, p'⟩
      cases answer with
      | none =>
          rw [activate_unanswered h]
          exact .loading id fresh p' h
      | some answer =>
          rw [activate_answered h]
          cases hread : answer.bind (Entity.decode (α := α)) with
          | ok r =>
              rw [loaded_of_ok hread]
              exact .loaded id fresh answer r p' h hread
          | error e =>
              rw [loaded_of_error hread]
              exact .unloaded id fresh answer e p' h hread

theorem course_save : Course portal token f p .save (f.save portal token p) := by
  by_cases hid : Entity.id f.record = ""
  · rw [save_unnamed hid]
    exact .refused hid
  · rcases h : portal (.upsert (Entity.kind α) (Entity.encode f.record) token) p with ⟨answer, p'⟩
    cases answer with
    | none =>
        rw [save_unanswered hid h]
        exact .saving hid p' h
    | some answer =>
        rw [save_answered hid h]
        cases answer with
        | ok u => exact .saved hid p' h
        | error e => exact .unsaved hid e p' h

/-- **Every turn is one of the courses.** -/
theorem course (a : Action α) : Course portal token f p a (f.act portal token p a) := by
  cases a with
  | activate id fresh => exact course_activate id fresh
  | edit change => exact .edited change
  | save => exact course_save
  | cancel => exact .cancelled

end AlertDesk.EditForm
