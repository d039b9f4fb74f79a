import AlertDesk.EditForm.Session

/-!
# AlertDesk.EditForm.Screen

A form in front of a user interface, which may stop listening at any moment.
The form does not know: it gives its commands all the same, and what nobody
listens to is lost.

`run` takes events in turn and writes down a line for every action: the turn
that the form took, and whether the user interface was there to hear of it.

Main facts:

* `turns_run`: the turns are those of the actions alone;
* `delivered_run`: the user interface takes in what was said before it stopped listening.
-/

namespace AlertDesk.EditForm

/-- What may happen to a form on the screen. -/
inductive Event (α : Type) where
  | act (action : Action α)
  /-- The user interface stops listening. -/
  | closeUi

/-- The action of an event. -/
def Event.action? {α : Type} : Event α → Option (Action α)
  | .act a => some a
  | .closeUi => none

/-- A form on the screen, and what its portal keeps. -/
structure Screen (α σ : Type) where
  form : EditForm α
  portal : σ
  /-- Whether the user interface still listens. -/
  uiOpen : Bool := true

/-- A line of the log: an action, the turn that the form took, and whether the
user interface listened. -/
structure Line (α σ : Type) where
  action : Action α
  turn : Turn α σ
  heard : Bool

variable {α σ : Type}

/-- The commands that the user interface takes in. -/
def Line.delivered (l : Line α σ) : List UiCommand := if l.heard then l.turn.commands else []

namespace Screen

variable [Entity α]

/-- One event. -/
def step (portal : Portal σ) (token : CsrfToken) (s : Screen α σ) :
    Event α → Screen α σ × List (Line α σ)
  | .act a =>
    let turn := s.form.act portal token s.portal a
    ({ s with form := turn.form, portal := turn.portal }, [⟨a, turn, s.uiOpen⟩])
  | .closeUi => ({ s with uiOpen := false }, [])

/-- Events in turn, with the log of them. -/
def run (portal : Portal σ) (token : CsrfToken) (s : Screen α σ) :
    List (Event α) → Screen α σ × List (Line α σ)
  | [] => (s, [])
  | e :: es =>
    let (s, lines) := s.step portal token e
    let (s, more) := s.run portal token es
    (s, lines ++ more)

/-! ## what is written down -/

variable {portal : Portal σ} {token : CsrfToken}

@[simp] theorem run_nil (s : Screen α σ) : s.run portal token [] = (s, []) := rfl

theorem run_cons (s : Screen α σ) (e : Event α) (es : List (Event α)) :
    s.run portal token (e :: es) =
      (((s.step portal token e).1.run portal token es).1,
        (s.step portal token e).2 ++ ((s.step portal token e).1.run portal token es).2) := rfl

/-- **Whether anybody listens makes no difference** to the turns of a form: they
are those of its actions alone, and every action has a line. -/
theorem turns_run (s : Screen α σ) (es : List (Event α)) :
    (s.run portal token es).2.map Line.action = es.filterMap Event.action? ∧
      (s.run portal token es).2.map Line.turn =
        turns portal token s.form s.portal (es.filterMap Event.action?) := by
  induction es generalizing s with
  | nil => exact ⟨rfl, rfl⟩
  | cons e es ih =>
      obtain ⟨hactions, hturns⟩ := ih (s.step portal token e).1
      rw [run_cons, List.map_append, List.map_append, hactions, hturns]
      cases e with
      | act a => exact ⟨rfl, rfl⟩
      | closeUi => exact ⟨rfl, rfl⟩

/-- A user interface that no longer listens takes nothing in. -/
theorem delivered_of_closed {s : Screen α σ} (h : s.uiOpen = false) (es : List (Event α)) :
    (s.run portal token es).2.flatMap Line.delivered = [] := by
  induction es generalizing s with
  | nil => rfl
  | cons e es ih =>
      rw [run_cons, List.flatMap_append]
      cases e with
      | act a => simp [step, Line.delivered, h, ih]
      | closeUi => simp [step, ih]

/-- **What the user interface takes in** are the commands that were given before
it stopped listening. -/
theorem delivered_run {s : Screen α σ} (h : s.uiOpen = true) (as : List (Action α))
    (es : List (Event α)) :
    (s.run portal token (as.map .act ++ .closeUi :: es)).2.flatMap Line.delivered =
      (turns portal token s.form s.portal as).flatMap Turn.commands := by
  induction as generalizing s with
  | nil =>
      rw [List.map_nil, List.nil_append, run_cons]
      exact delivered_of_closed rfl es
  | cons a as ih =>
      have hlater := ih (s := (s.step portal token (.act a)).1) h
      rw [List.map_cons, List.cons_append, run_cons, List.flatMap_append, hlater, turns,
        List.flatMap_cons]
      simp [step, Line.delivered, h]

end Screen

end AlertDesk.EditForm
