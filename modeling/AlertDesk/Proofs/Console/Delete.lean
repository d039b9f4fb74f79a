import AlertDesk.Proofs.Client.RecordTarget
import AlertDesk.Proofs.Console.Dialogue

/-!
# AlertDesk.Proofs.Console.Delete

Deleting at the console, from the first page to the last line.

A delete asks for a page, whatever comes of it, stages the record, and then is a
dialogue (`delete_eq`).  With a client in the portal's place, an identifier that
names no record makes every attempt fail before anything is sent.

Main fact: `delete_dialogue` — a delete comes to an end, attempts nothing that it
has not been told to, and stops at the first refusal or the first success.
-/

namespace AlertDesk

open ListScreen (Session)

namespace Console

/-! ## up to the first question -/

section

variable {α σ : Type} [Entity α] {portal : Portal σ} {token : CsrfToken} {id : String} {yes : Bool}

theorem Deletion.perform_eq {d : Deletion α σ} {event : ListScreen.Event} {screen : Session α}
    {notes : List ListScreen.Note} {p : σ}
    (performed : d.screen.perform portal event d.portal = (screen, notes, p)) :
    d.perform portal event =
      (⟨screen, d.queue ++ notes.filterMap ListScreen.Note.delivered?, d.input, p⟩, notes) := by
  simp only [Deletion.perform, performed]

/-- The delete once the first page was asked for and the record is staged. -/
def Deletion.opened (token : CsrfToken) (id : String) (input : Input)
    (response : Except PortalError QueryResponse) (p : σ) : Deletion α σ where
  screen :=
    let s := ({ token } : Session α).refreshed none response
    { s with screen := { s.screen with stage := .staged id, deleteError := none } }
  queue := [.requestConfirmation id]
  input := input
  portal := p

theorem asking_opened (token : CsrfToken) (id : String) (input : Input)
    (response : Except PortalError QueryResponse) (p : σ) :
    Asking token id (Deletion.opened token id input response p : Deletion α σ) where
  queue := rfl
  stage := rfl
  quiet := rfl
  listens := rfl
  token := rfl
  query := by simp [Deletion.opened, Session.refreshed]

/-- Before the first question the total of the first page is known. -/
theorem total_opened (token : CsrfToken) (id : String) (input : Input)
    (response : Except PortalError QueryResponse) (p : σ) :
    (Deletion.opened token id input response p : Deletion α σ).screen.total =
      Session.totalAfter α none response :=
  Session.total_refreshed { token } none response

/-- A record that is staged is attended to. -/
theorem delete_of_staged {input : Input} {p : σ} {d₁ d₂ : Deletion α σ}
    {loaded removed : List ListScreen.Note}
    (loading : Deletion.perform portal ⟨{ token }, [], input, p⟩ (.query none) = (d₁, loaded))
    (ended : (endingOf loaded).isNone = false)
    (removing : d₁.perform portal (.remove (Entity.id (Entity.blank id : α))) = (d₂, removed))
    (accepted : staged removed = true) :
    delete portal token α id yes input p =
      (attend portal yes d₂).after (callsOf loaded ++ callsOf removed) := by
  simp only [delete, loading, ended, removing, accepted, Bool.false_eq_true, if_false, if_true]

/-- A delete begins with a query, whatever comes of it; then the user is to be asked. -/
theorem delete_eq (answer : (call : Call) → σ → call.Answer × σ) (token : CsrfToken) (id : String)
    (yes : Bool) (input : Input) (p : σ) :
    delete (.answering answer) token α id yes input p =
      (attend (.answering answer) yes (Deletion.opened token (Entity.id (Entity.blank id : α)) input
        (answer (.query (Entity.kind α) {}) p).1 (answer (.query (Entity.kind α) {}) p).2 :
        Deletion α σ)).after [.called (.query (Entity.kind α) {})] := by
  let loaded : Deletion α σ :=
    ⟨({ token } : Session α).refreshed none (answer (.query (Entity.kind α) {}) p).1, [], input,
      (answer (.query (Entity.kind α) {}) p).2⟩
  have loading := Deletion.perform_eq (d := (⟨{ token }, [], input, p⟩ : Deletion α σ))
    (Session.perform_query answer rfl none)
  have removing := Deletion.perform_eq (d := loaded)
    (Session.perform_remove (.answering answer) (Entity.id (Entity.blank id : α)) _ rfl)
  exact delete_of_staged loading rfl removing rfl

end

/-- The delete of a record of a kind, once the first page was asked for. -/
theorem delete_eq_opened {σ : Type} (answer : (call : Call) → σ → call.Answer × σ)
    (token : CsrfToken) (kind : Kind) (id : String) (yes : Bool) (input : Input) (p : σ) :
    delete (.answering answer) token kind.Record id yes input p =
      (attend (.answering answer) yes (Deletion.opened token id input
        (answer (.query kind {}) p).1 (answer (.query kind {}) p).2 :
        Deletion kind.Record σ)).after [.called (.query kind {})] := by
  cases kind <;> exact delete_eq ..

/-- A delete of a kind of record. -/
theorem delete_eq_attend {σ : Type} (answer : (call : Call) → σ → call.Answer × σ)
    (token : CsrfToken) (kind : Kind) (id : String) (yes : Bool) (input : Input) (p : σ) :
    ∃ d : Deletion kind.Record σ, Asking token id d ∧ d.input = input ∧
      d.portal = (answer (.query kind {}) p).2 ∧
      delete (.answering answer) token kind.Record id yes input p =
        (attend (.answering answer) yes d).after [.called (.query kind {})] :=
  ⟨.opened .., asking_opened .., rfl, rfl, delete_eq_opened ..⟩

/-! ## attempts that are refused -/

variable {c : Client} {script : Script} {kind : Kind} {id : String} {token : CsrfToken}

/-- However often a call is made that is refused, its target is invalid. -/
theorem attempt_of_refuses (script : Script) (h : c.Refuses (.delete kind id token)) (j : Journal)
    (n : Nat) :
    ∃ reason, attempt (c.answer script) (.delete kind id token) j n =
      .error (.invalidTarget reason) := by
  induction n generalizing j with
  | zero =>
    obtain ⟨reason, refused⟩ := h
    exact ⟨reason, congrArg (·.1) (refused script j)⟩
  | succ n ih => exact ih _

/-! ## the whole delete -/

/-- **A delete attempts nothing it has not been told to, and comes to an end.**
It begins with a query, whatever comes of that.  With questions, every attempt
stands right behind a question of its own that names the identifier and is answered
with yes; the first other answer is the last step, and so is the query after the
first attempt that goes through.  Without questions there is one attempt, and its
failure is the failure of the delete.  An identifier that names no record is never
sent. -/
theorem delete_dialogue (c : Client) (script : Script) (token : CsrfToken) (kind : Kind)
    (id : String) (yes : Bool) (input : Input) (j : Journal) :
    let run := delete (c.portal script) token kind.Record id yes input j
    let query := Call.query kind {}
    let send := Call.delete kind id token
    let ask := Event.asked ("Delete " ++ kind.route ++ " " ++ id ++ "? [y/N] ")
    let j₁ := (c.answer script query j).2
    let attempt := attempt (c.answer script) send j₁
    (∃ result, run.result = some result ∧ result ≠ .error .deleteUnderWay) ∧
    run.portal = kept (c.answer script) j run.steps ∧
    (yes = false → ∃ failures,
      (∀ i < failures, input.reply i = .yes ∧ ∃ e, attempt i = .error e) ∧
      ((input.reply failures ≠ .yes ∧
          run.steps = .called query :: rounds (ask .yes) (.called send) failures ++
            [ask (input.reply failures)] ∧
          run.result = some (if input.reply failures = .no then .ok () else .error .answer)) ∨
        (input.reply failures = .yes ∧ attempt failures = .ok () ∧
          run.steps = .called query :: rounds (ask .yes) (.called send) (failures + 1) ++
            [.called query] ∧
          run.result = some (.ok ())))) ∧
    (yes = true →
      (attempt 0 = .ok () ∧ run.steps = [.called query, .called send, .called query] ∧
        run.result = some (.ok ())) ∨
      ∃ e, attempt 0 = .error e ∧ run.steps = [.called query, .called send] ∧
        run.result = some (.error (.portal e))) ∧
    (id = "" ∨ id = "." ∨ id = ".." →
      (∀ n, ∃ reason, attempt n = .error (.invalidTarget reason)) ∧
        run.portal.sent = j₁.sent) ∧
    (∀ n, input.length ≤ n → input.reply n = .no) ∧
    ∀ n, input.reply n = .yes ↔ ∃ text, Text.Utf8.decode? (input.line n) = some text ∧
      Text.trimChars text ∈ [['y'], ['Y'], ['y', 'e', 's']] := by
  intro run query send ask j₁ attempt
  have asks : ask = Event.asked (question kind id) := rfl
  obtain ⟨d, asking, rfl, portal, begun⟩ :=
    delete_eq_attend (c.answer script) token kind id yes input j
  have begun : run = _ := begun
  have steps : run.steps =
      .called query :: (attend (.answering (c.answer script)) yes d).steps := by
    simp [begun, query]
  have keeps : (attend (.answering (c.answer script)) yes d).portal = kept (c.answer script) j₁ _ :=
    portal ▸ asking.kept_eq (c.answer script)
  refine ⟨?_, ?_, fun hyes => ?_, fun hyes => ?_, fun unusable => ?_,
    fun n => Input.reply_of_length_le, fun n => Answer.ofLine_eq_yes_iff⟩
  · exact begun ▸ asking.ends _
  · rw [steps, begun, portal_after, keeps]
    rfl
  · subst hyes
    obtain ⟨failures, course⟩ := asking.course (c.answer script)
    rw [Kind.Record.kind_eq, portal] at course
    exact ⟨failures, course.failing, by simpa [steps, begun, query, send, asks] using course.ending⟩
  · subst hyes
    have last := (asking.at_once (c.answer script)).1
    rw [Kind.Record.kind_eq, portal] at last
    simpa [steps, begun, query, send] using last
  · have refused : c.Refuses send := (Client.refuses_iff rfl).mpr unusable
    have fails := attempt_of_refuses script refused
    refine ⟨fails j₁, ?_⟩
    rw [begun, portal_after, keeps]
    refine sent_kept fun call hcall => ?_
    have only := asking.called_eq (c.answer script) (fun n went => ?_) hcall
    · rw [Kind.Record.kind_eq] at only
      exact only ▸ refused
    · obtain ⟨reason, failed⟩ := fails d.portal n
      rw [Kind.Record.kind_eq, failed] at went
      cases went

end Console

end AlertDesk
