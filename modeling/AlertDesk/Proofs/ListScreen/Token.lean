import AlertDesk.ListScreen.Session
import AlertDesk.Proofs.Client.Token

/-!
# AlertDesk.Proofs.ListScreen.Token

A list screen with one token in place of another.  The token goes into the
calls, and nothing else of what the screen does depends on it.

Main facts:

* `step_withToken` — a step makes the same calls with another token;
* `perform_withToken` — so does an event whose calls are answered, if the
  portal is indifferent between the tokens.
-/

namespace AlertDesk.ListScreen

/-- The note with another token in its call. -/
def Note.withToken (t : CsrfToken) : Note → Note
  | .called number call => .called number (call.withToken t)
  | .emitted command delivered => .emitted command delivered
  | .finished task ending => .finished task ending
  | .removed accepted => .removed accepted

namespace Note

variable {t a b : CsrfToken} {note : Note}

@[simp] theorem withToken_withToken : (note.withToken a).withToken b = note.withToken b := by
  cases note <;> simp [withToken]

theorem call?_withToken :
    (note.withToken t).call? = note.call?.map fun c => (c.1, c.2.withToken t) := by
  cases note <;> rfl

@[simp] theorem finished?_withToken : (note.withToken t).finished? = note.finished? := by
  cases note <;> rfl

@[simp] theorem delivered?_withToken : (note.withToken t).delivered? = note.delivered? := by
  cases note <;> rfl

end Note

namespace Session

variable {α σ : Type} {t a b : CsrfToken} {s : Session α}

/-- The session with another token. -/
def withToken (t : CsrfToken) (s : Session α) : Session α := { s with token := t }

@[simp] theorem withToken_withToken : (s.withToken a).withToken b = s.withToken b := rfl

/-- A session has its own token in place of itself. -/
theorem withToken_self : s.withToken s.token = s := rfl

@[simp] theorem withToken_screen : (s.withToken t).screen = s.screen := rfl

variable [Entity α]

/-- **A step makes the same calls with another token.** -/
theorem step_withToken (e : Event) : (s.withToken t).step e =
    ((s.step e).1.withToken t, (s.step e).2.map (Note.withToken t)) := by
  cases e with
  | query params => rfl
  | remove id =>
      simp only [step, withToken]
      split <;> rfl
  | confirm =>
      simp only [step, withToken]
      split <;> rfl
  | cancel =>
      simp only [step, withToken]
      split <;> rfl
  | answerQuery call answer =>
      have hfind : (s.withToken t).find? call = s.find? call := rfl
      simp only [step, hfind]
      split
      · split
        · simp only [queryAnswered, withToken, forget, List.map_cons, List.map_nil, Note.withToken]
        · rfl
      · rfl
  | answerDelete call answer =>
      have hfind : (s.withToken t).find? call = s.find? call := rfl
      simp only [step, hfind]
      split
      · split
        · cases answer <;> rfl
        · rfl
      · rfl
  | drop task => rfl
  | closeUi => rfl

theorem findSome?_call?_withToken (notes : List Note) :
    (notes.map (Note.withToken t)).findSome? Note.call? =
      (notes.findSome? Note.call?).map fun c => (c.1, c.2.withToken t) := by
  rw [List.findSome?_map, List.map_findSome?]
  exact congrArg (List.findSome? · notes) (funext fun _ => Note.call?_withToken)

variable {portal : Portal σ} {change : σ → σ}

/-- The answer to a call brings about the same event, whatever the token. -/
theorem answerEvent_withToken (h : portal.Indifferent a b change) (n : Nat) (call : Call) (p : σ) :
    answerEvent n (call.withToken b) (portal (call.withToken b) (change p)).1 =
      answerEvent n (call.withToken a) (portal (call.withToken a) p).1 ∧
    (portal (call.withToken b) (change p)).2 = change (portal (call.withToken a) p).2 := by
  cases call with
  | get kind id => simp [Call.withToken, h.get]
  | query kind q => simp [Call.withToken, h.query]
  | upsert kind body token => simp [Call.withToken, h.upsert, answerEvent]
  | delete kind id token =>
      simp only [Call.withToken, h.delete, and_true]
      cases (portal (.delete kind id a) p).1 <;> rfl

/-- Calls are followed in the same way, whatever their token. -/
theorem follow_withToken (h : portal.Indifferent a b change) (rounds : Nat) (s : Session α)
    (notes : List Note) (p : σ) :
    follow portal rounds (s.withToken b) (notes.map (Note.withToken b)) (change p) =
      let r := follow portal rounds (s.withToken a) (notes.map (Note.withToken a)) p
      (r.1.withToken b, r.2.1.map (Note.withToken b), change r.2.2) := by
  induction rounds generalizing s notes p with
  | zero => simp [follow]
  | succ rounds ih =>
      have hcall := fun t => findSome?_call?_withToken (t := t) notes
      cases hc : notes.findSome? Note.call? with
      | none =>
          simp only [hc, Option.map_none] at hcall
          rw [follow_of_no_call (hcall b), follow_of_no_call (hcall a)]
          simp
      | some c =>
          simp only [hc, Option.map_some] at hcall
          obtain ⟨hevent, hkept⟩ := answerEvent_withToken h c.1 c.2 p
          cases hanswer : answerEvent c.1 (c.2.withToken a) (portal (c.2.withToken a) p).1 with
          | none =>
              rw [follow_unanswered (hcall b) (hevent.trans hanswer),
                follow_unanswered (hcall a) hanswer, hkept]
              simp
          | some event =>
              rw [follow_answered (hcall b) (hevent.trans hanswer),
                follow_answered (hcall a) hanswer, hkept]
              simp only [step_withToken, ih]
              simp

/-- **An event leads to the same, whatever the token.** -/
theorem perform_withToken (h : portal.Indifferent a b change) (s : Session α) (e : Event) (p : σ) :
    (s.withToken b).perform portal e (change p) =
      let r := (s.withToken a).perform portal e p
      (r.1.withToken b, r.2.1.map (Note.withToken b), change r.2.2) := by
  simp only [perform, step_withToken]
  exact follow_withToken h 2 _ _ p

end Session

end AlertDesk.ListScreen
