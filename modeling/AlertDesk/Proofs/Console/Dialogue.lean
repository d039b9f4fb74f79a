import AlertDesk.Proofs.Console.Steps
import AlertDesk.Proofs.ListScreen.Perform

/-!
# AlertDesk.Proofs.Console.Dialogue

The dialogue of a delete: a question, an answer, an attempt, and again if the
attempt fails.

A dialogue with a portal that leaves no call unanswered only ever stands at a
question (`Asking`) or at its end.  What a turn does at a question depends on the
answer and on what comes of the attempt; each case is one equation for `attend`
(`Asking.attend_refused`, `Asking.attend_deleted`, `Asking.attend_failed`, …), and
a failure leads to the next question with less input left.  By induction on the
input, the whole dialogue is so many failures and then an end (`Course`).

Answers and attempts are counted from 0, each by its own number: `Input.reply` is
the answer to a question, whatever is done with it, and `attempt` what comes of a
call that is made again and again.

Main facts:

* `Asking.course` — a dialogue with questions;
* `Asking.at_once` — a dialogue without questions;
* `Asking.ends` — either way it comes to an end.
-/

namespace AlertDesk

open ListScreen (Session)

/-! ## answers -/

theorem Answer.ofLine_eq_yes_iff {line : List UInt8} : ofLine line = .yes ↔
    ∃ text, Text.Utf8.decode? line = some text ∧ Text.trimChars text ∈ consents := by
  unfold ofLine
  cases Text.Utf8.decode? line <;> simp

namespace Input

/-- The line that a question reads, by its number. -/
def line (input : Input) : Nat → List UInt8
  | 0 => input.readLine.1
  | n + 1 => line input.readLine.2 n

/-- The answer to a question, by its number. -/
def reply (input : Input) (n : Nat) : Answer := .ofLine (input.line n)

@[simp] theorem reply_zero (input : Input) : input.reply 0 = (Answer.ask input).1 := rfl

@[simp] theorem reply_succ (input : Input) (n : Nat) :
    input.reply (n + 1) = reply (Answer.ask input).2 n := rfl

/-- At the end of the input there is nothing but refusals. -/
theorem reply_of_length_le {input : Input} {n : Nat} (h : input.length ≤ n) :
    input.reply n = .no := by
  induction n generalizing input with
  | zero => simp [List.length_eq_zero_iff.mp (Nat.le_zero.mp h)]
  | succ n ih =>
    rw [reply_succ]
    refine ih ?_
    cases input with
    | nil => simp
    | cons chunk rest =>
      exact Nat.le_trans (length_readLine_cons chunk rest) (Nat.le_of_succ_le_succ h)

end Input

namespace Console

/-! ## attempts -/

/-- What comes of a call that is made again and again, by its number. -/
def attempt {σ : Type} (answer : (call : Call) → σ → call.Answer × σ) (call : Call) (p : σ) :
    Nat → call.Answer
  | 0 => (answer call p).1
  | n + 1 => attempt answer call (answer call p).2 n

/-- A question and a call, so many times. -/
def rounds (ask send : Event) (n : Nat) : List Event := (List.replicate n [ask, send]).flatten

@[simp] theorem rounds_zero (ask send : Event) : rounds ask send 0 = [] := rfl

@[simp] theorem rounds_succ (ask send : Event) (n : Nat) :
    rounds ask send (n + 1) = ask :: send :: rounds ask send n := rfl

theorem mem_rounds {ask send event : Event} {n : Nat} (h : event ∈ rounds ask send n) :
    event = ask ∨ event = send := by
  obtain ⟨round, hround, hmem⟩ := List.mem_flatten.mp h
  obtain rfl := List.eq_of_mem_replicate hround
  simpa using hmem

/-! ## at a question -/

section Dialogue

variable {α σ : Type} [Entity α] {portal : Portal σ}
variable {answer : (call : Call) → σ → call.Answer × σ}
variable {token : CsrfToken} {id : String} {yes : Bool} {d : Deletion α σ}

/-- The user is to be asked about a record, and nothing else is left to see to. -/
structure Asking (token : CsrfToken) (id : String) (d : Deletion α σ) : Prop where
  queue : d.queue = [.requestConfirmation id]
  stage : d.screen.screen.stage = .staged id
  quiet : d.screen.waiting = []
  listens : d.screen.uiOpen = true
  token : d.screen.token = token
  query : d.screen.screen.list.view.query = {}

/-- A turn that leaves nothing but the end of the dialogue is the last one. -/
theorem attend_of_last {d' : Deletion α σ} {events : List Event}
    (turn : d.turn portal yes = .more events d') (closing : d'.queue = [.closeConfirmation]) :
    attend portal yes d = .done (events ++ [printed (remainingLine d')]) d'.portal := by
  have closed : attend portal yes d' = .done [printed (remainingLine d')] d'.portal :=
    attend_of_over portal (by simp [Deletion.turn, closing])
  rw [attend_of_more portal turn, closed]
  rfl

theorem Asking.attend_unreadable (h : Asking token id d) {asked : List Event} {rest : Input}
    (hc : consent (Entity.kind α) id yes d.input = (.unreadable, asked, rest)) :
    attend portal yes d =
      .failed .answer (warning d.screen.screen.deleteError ++ asked) d.portal :=
  attend_of_over portal (by simp [Deletion.turn, h.queue, hc])

/-- A refusal is the end of the dialogue. -/
theorem Asking.attend_refused (h : Asking token id d) {asked : List Event} {rest : Input}
    (hc : consent (Entity.kind α) id yes d.input = (.no, asked, rest)) :
    attend portal yes d =
      .done (warning d.screen.screen.deleteError ++ asked ++ [printed (remainingLine d)])
        d.portal := by
  have turn : d.turn portal yes = .more (warning d.screen.screen.deleteError ++ asked)
      { d with
        screen := { d.screen with screen := { d.screen.screen with stage := .idle } }
        queue := [.closeConfirmation]
        input := rest } := by
    simp [Deletion.turn, h.queue, hc, Deletion.perform, Session.perform_cancel _ _ h.stage,
      Session.emit, h.listens, ListScreen.Note.delivered?]
  simp [attend_of_last turn rfl, remainingLine]

/-- With consent, the confirmation is performed, and the dialogue goes on unless
a failure is the end of it. -/
theorem Asking.turn_of_consent (h : Asking token id d) {asked : List Event} {rest : Input}
    (hc : consent (Entity.kind α) id yes d.input = (.yes, asked, rest))
    {screen : Session α} {notes : List ListScreen.Note} {p : σ}
    (performed : d.screen.perform portal .confirm d.portal = (screen, notes, p))
    {ending : ListScreen.Ending} (ended : endingOf notes = some ending)
    (goes : yes = false ∨ ∀ e, ending ≠ .confirmFailed e) :
    d.turn portal yes = .more (warning d.screen.screen.deleteError ++ asked ++ callsOf notes)
      ⟨screen, notes.filterMap ListScreen.Note.delivered?, rest, p⟩ := by
  simp only [Deletion.turn, h.queue, hc, Deletion.perform, performed, ended, List.nil_append]
  cases yes <;> cases ending <;> first | rfl | simp at goes

/-- The last line of a delete, for a total. -/
def remaining (kind : Kind) (total : Option UInt64) : String :=
  "-- " ++ kind.collection ++ " remaining: " ++ countText total

theorem remainingLine_eq (d : Deletion α σ) :
    remainingLine d = remaining (Entity.kind α) d.screen.total := rfl

/-- A delete that goes through ends the dialogue after one more query, and with
the total that the list shows then. -/
theorem Asking.attend_deleted (h : Asking token id d) {asked : List Event} {rest : Input}
    (hc : consent (Entity.kind α) id yes d.input = (.yes, asked, rest)) {p₁ : σ}
    (deleted : answer (.delete (Entity.kind α) id token) d.portal = (.ok (), p₁)) :
    let (response, p₂) := answer (.query (Entity.kind α) {}) p₁
    let total := Session.totalAfter α d.screen.total response
    attend (.answering answer) yes d =
      .done (warning d.screen.screen.deleteError ++ asked ++
        [.called (.delete (Entity.kind α) id token), .called (.query (Entity.kind α) {}),
          printed (remaining (Entity.kind α) total)]) p₂ := by
  obtain rfl := h.token
  have performed := Session.perform_confirm_deleted h.quiet h.stage deleted
  rw [h.query] at performed
  have turn := h.turn_of_consent hc performed rfl (.inr fun _ => nofun)
  have last := attend_of_last turn
    (by simp [Session.emit, h.listens, List.filterMap_cons, ListScreen.Note.delivered?])
  rw [last, remainingLine_eq, Session.total_refreshed]
  simp only [Session.emit, callsOf_called, callsOf_emitted, callsOf_finished, callsOf_nil,
    List.append_assoc, List.cons_append, List.nil_append]
  rfl

/-- The delete after an attempt that failed. -/
def Deletion.failed (d : Deletion α σ) (id : String) (e : PortalError) (rest : Input) (p : σ) :
    Deletion α σ where
  screen := { d.screen with
    screen := d.screen.screen.deleteFailed id e
    tasks := d.screen.tasks + 1
    calls := d.screen.calls + 1 }
  queue := [.requestConfirmation id]
  input := rest
  portal := p

omit [Entity α] in
/-- The user is to be asked again. -/
theorem Asking.failed (h : Asking token id d) (e : PortalError) (rest : Input) (p : σ) :
    Asking token id (d.failed id e rest p) where
  queue := rfl
  stage := rfl
  quiet := h.quiet
  listens := h.listens
  token := h.token
  query := h.query

/-- An attempt that fails leads to the next question. -/
theorem Asking.attend_failed (h : Asking token id d) {asked : List Event} {rest : Input}
    (hc : consent (Entity.kind α) id false d.input = (.yes, asked, rest)) {p₁ : σ} {e : PortalError}
    (failed : answer (.delete (Entity.kind α) id token) d.portal = (.error e, p₁)) :
    attend (.answering answer) false d =
      (attend (.answering answer) false (d.failed id e rest p₁)).after
        (warning d.screen.screen.deleteError ++ asked ++
          [.called (.delete (Entity.kind α) id token)]) := by
  obtain rfl := h.token
  have performed := Session.perform_confirm_failed h.quiet h.stage failed
  have turn := h.turn_of_consent hc performed rfl (.inl rfl)
  rw [attend_of_more _ turn]
  simp [Session.emit, h.listens, List.filterMap_cons, ListScreen.Note.delivered?, Deletion.failed]

/-- Without questions, an attempt that fails is the end of it. -/
theorem Asking.attend_given_up (h : Asking token id d) {asked : List Event} {rest : Input}
    (hc : consent (Entity.kind α) id true d.input = (.yes, asked, rest)) {p₁ : σ} {e : PortalError}
    (failed : answer (.delete (Entity.kind α) id token) d.portal = (.error e, p₁)) :
    attend (.answering answer) true d =
      .failed (.portal e) (warning d.screen.screen.deleteError ++ asked ++
        [.called (.delete (Entity.kind α) id token)]) p₁ := by
  obtain rfl := h.token
  have performed := Session.perform_confirm_failed h.quiet h.stage failed
  refine attend_of_over _ ?_
  simp only [Deletion.turn, h.queue, hc, Deletion.perform, performed, Session.emit, callsOf_called,
    callsOf_emitted, callsOf_finished, callsOf_nil]
  rfl

/-! ## from the first question to the end -/

variable (answer) in
/-- How a dialogue goes: so many times the answer is yes and the attempt fails;
then the answer is another one, or the attempt goes through. -/
structure Course (kind : Kind) (id : String) (token : CsrfToken) (input : Input) (p : σ)
    (failures : Nat) (run : Run σ) : Prop where
  failing : ∀ i < failures, input.reply i = .yes ∧
    ∃ e, attempt answer (.delete kind id token) p i = .error e
  ending :
    (input.reply failures ≠ .yes ∧
      run.steps = rounds (.asked (question kind id) .yes) (.called (.delete kind id token))
        failures ++ [.asked (question kind id) (input.reply failures)] ∧
      run.result = some (if input.reply failures = .no then .ok () else .error .answer)) ∨
    (input.reply failures = .yes ∧
      attempt answer (.delete kind id token) p failures = .ok () ∧
      run.steps = rounds (.asked (question kind id) .yes) (.called (.delete kind id token))
        (failures + 1) ++ [.called (.query kind {})] ∧
      run.result = some (.ok ()))
  portal : run.portal = kept answer p run.steps

/-- One failure more in front. -/
theorem Course.again {kind : Kind} {input rest : Input} {p p₁ : σ} {failures : Nat} {run : Run σ}
    {e : PortalError} {said : List Event} (h : Course answer kind id token rest p₁ failures run)
    (reply : Answer.ask input = (.yes, rest))
    (failed : answer (.delete kind id token) p = (.error e, p₁))
    (steps : stepsOf said =
      [.asked (question kind id) .yes, .called (.delete kind id token)]) :
    Course answer kind id token input p (failures + 1) (run.after said) where
  failing
    | 0, _ => ⟨congrArg (·.1) reply, e, congrArg (·.1) failed⟩
    | i + 1, hi => by
        simpa [reply, attempt, failed] using h.failing i (Nat.lt_of_succ_lt_succ hi)
  ending := by
    simpa [reply, attempt, failed, steps] using h.ending
  portal := by
    simpa [steps, kept, failed] using h.portal

variable (answer)

/-- How a dialogue goes. -/
theorem Asking.course {d : Deletion α σ} (h : Asking token id d) : ∃ failures,
    Course answer (Entity.kind α) id token d.input d.portal failures
      (attend (.answering answer) false d) := by
  cases reply : Answer.ask d.input with | mk said rest =>
  have hc : consent (Entity.kind α) id false d.input =
      (said, [.asked (question (Entity.kind α) id) said], rest) := by
    simp [consent, reply]
  cases said with
  | unreadable =>
    refine ⟨0, by simp, .inl ?_, ?_⟩ <;>
      simp [h.attend_unreadable hc, Run.failed, Run.steps, reply, kept]
  | no =>
    refine ⟨0, by simp, .inl ?_, ?_⟩ <;>
      simp [h.attend_refused hc, Run.done, Run.steps, reply, kept]
  | yes =>
    cases sent : answer (.delete (Entity.kind α) id token) d.portal with | mk result p₁ =>
    cases result with
    | ok =>
      have run := h.attend_deleted hc sent
      refine ⟨0, by simp, .inr ?_, ?_⟩ <;>
        simp [run, Run.done, Run.steps, reply, kept, attempt, sent]
    | error e =>
      obtain ⟨failures, course⟩ := (h.failed e rest p₁).course
      rw [h.attend_failed hc sent]
      exact ⟨failures + 1, course.again reply sent (by simp)⟩
termination_by d.input.length
decreasing_by
  have shorter := Answer.length_lt_of_ask_yes (congrArg (·.1) reply)
  simpa [reply, Deletion.failed] using shorter

/-- Without a question there is one attempt. -/
theorem Asking.at_once {d : Deletion α σ} (h : Asking token id d) :
    let send := Call.delete (Entity.kind α) id token
    let run := attend (.answering answer) true d
    ((attempt answer send d.portal 0 = .ok () ∧
        run.steps = [.called send, .called (.query (Entity.kind α) {})] ∧
        run.result = some (.ok ())) ∨
      ∃ e, attempt answer send d.portal 0 = .error e ∧ run.steps = [.called send] ∧
        run.result = some (.error (.portal e))) ∧
    run.portal = kept answer d.portal run.steps := by
  intro send run
  have hc : consent (Entity.kind α) id true d.input = (.yes, [], d.input) := rfl
  cases sent : answer send d.portal with | mk result p₁ =>
  cases result with
  | ok =>
    have hrun := h.attend_deleted hc sent
    refine ⟨.inl ?_, ?_⟩ <;> simp [run, send, hrun, Run.done, Run.steps, kept, attempt, sent]
  | error e =>
    refine ⟨.inr ⟨e, ?_⟩, ?_⟩ <;>
      simp [run, send, h.attend_given_up hc sent, Run.failed, Run.steps, kept, attempt, sent]

/-- A dialogue comes to an end. -/
theorem Asking.ends (h : Asking token id d) : ∃ result,
    (attend (.answering answer) yes d).result = some result ∧ result ≠ .error .deleteUnderWay := by
  cases yes with
  | false =>
    obtain ⟨failures, course⟩ := h.course answer
    obtain ⟨-, -, ended⟩ | ⟨-, -, -, ended⟩ := course.ending
    · exact ⟨_, ended, by split <;> nofun⟩
    · exact ⟨_, ended, nofun⟩
  | true =>
    obtain ⟨-, -, ended⟩ | ⟨e, -, -, ended⟩ := (h.at_once answer).1
    · exact ⟨_, ended, nofun⟩
    · exact ⟨_, ended, nofun⟩

/-- What the portal keeps is what the calls leave, in order. -/
theorem Asking.kept_eq (h : Asking token id d) :
    (attend (.answering answer) yes d).portal =
      kept answer d.portal (attend (.answering answer) yes d).steps := by
  cases yes with
  | false => exact (h.course answer).elim fun _ course => course.portal
  | true => exact (h.at_once answer).2

/-- While no attempt goes through, nothing else is called. -/
theorem Asking.called_eq (h : Asking token id d)
    (fails : ∀ n, attempt answer (.delete (Entity.kind α) id token) d.portal n ≠ .ok ())
    {call : Call} (hcall : .called call ∈ (attend (.answering answer) yes d).steps) :
    call = .delete (Entity.kind α) id token := by
  cases yes with
  | false =>
    obtain ⟨failures, course⟩ := h.course answer
    obtain ⟨-, steps, -⟩ | ⟨-, went, -⟩ := course.ending
    · rw [steps] at hcall
      obtain hround | hlast := List.mem_append.mp hcall
      · simpa using mem_rounds hround
      · simp at hlast
    · exact (fails failures went).elim
  | true =>
    obtain ⟨went, -⟩ | ⟨e, -, steps, -⟩ := (h.at_once answer).1
    · exact (fails 0 went).elim
    · simpa [steps] using hcall

end Dialogue

end Console

end AlertDesk
