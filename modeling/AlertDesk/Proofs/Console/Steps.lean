import AlertDesk.Console
import AlertDesk.Proofs.Client.RecordTarget

/-!
# AlertDesk.Proofs.Console.Steps

What a command does, apart from what it prints: its questions and its calls, in
their order (`Run.steps`), and what the calls leave behind.

With a portal that leaves no call unanswered, the portal goes through one state
after the other as the calls are made (`kept`).  With a client in its place, that
is the journal: every request in it is the request of one of the calls.

Main facts:

* `mem_exchanges_kept` — a request that was sent has the method and the body of a call;
* `sent_kept` — calls that are refused send nothing.
-/

namespace AlertDesk.Console

/-! ## questions and calls in order -/

/-- Whether an event is a question or a call. -/
def Event.isStep : Event → Bool
  | .asked .. | .called _ => true
  | .printed _ | .warned _ => false

/-- The questions and the calls among some events. -/
def stepsOf (events : List Event) : List Event := events.filter Event.isStep

@[simp] theorem stepsOf_nil : stepsOf [] = [] := rfl

@[simp] theorem stepsOf_asked (text : String) (answer : Answer) (events : List Event) :
    stepsOf (.asked text answer :: events) = .asked text answer :: stepsOf events := rfl

@[simp] theorem stepsOf_called (call : Call) (events : List Event) :
    stepsOf (.called call :: events) = .called call :: stepsOf events := rfl

@[simp] theorem stepsOf_printed (line : String) (events : List Event) :
    stepsOf (printed line :: events) = stepsOf events := rfl

@[simp] theorem stepsOf_append (a b : List Event) : stepsOf (a ++ b) = stepsOf a ++ stepsOf b :=
  List.filter_append ..

@[simp] theorem stepsOf_warning (e : Option PortalError) : stepsOf (warning e) = [] := by
  cases e <;> rfl

/-- The questions and the calls of a run, in order. -/
def Run.steps {σ : Type} (run : Run σ) : List Event := stepsOf run.events

@[simp] theorem steps_after {σ : Type} (run : Run σ) (events : List Event) :
    (run.after events).steps = stepsOf events ++ run.steps := by
  simp [Run.steps]

@[simp] theorem portal_after {σ : Type} (run : Run σ) (events : List Event) :
    (run.after events).portal = run.portal := rfl

/-! ## the calls of a screen -/

@[simp] theorem callsOf_nil : callsOf [] = [] := rfl

@[simp] theorem callsOf_called (n : Nat) (call : Call) (notes : List ListScreen.Note) :
    callsOf (.called n call :: notes) = .called call :: callsOf notes := rfl

@[simp] theorem callsOf_emitted (c : UiCommand) (b : Bool) (notes : List ListScreen.Note) :
    callsOf (.emitted c b :: notes) = callsOf notes := rfl

@[simp] theorem callsOf_finished (n : Nat) (e : ListScreen.Ending)
    (notes : List ListScreen.Note) : callsOf (.finished n e :: notes) = callsOf notes := rfl

/-! ## what the calls leave behind -/

/-- What the portal keeps after the calls among some events. -/
def kept {σ : Type} (answer : (call : Call) → σ → call.Answer × σ) (p : σ) : List Event → σ
  | [] => p
  | .called call :: events => kept answer (answer call p).2 events
  | .asked .. :: events | .printed _ :: events | .warned _ :: events => kept answer p events

theorem kept_append {σ : Type} (answer : (call : Call) → σ → call.Answer × σ) (p : σ)
    (a b : List Event) : kept answer p (a ++ b) = kept answer (kept answer p a) b := by
  induction a generalizing p with
  | nil => rfl
  | cons event a ih => cases event <;> exact ih _

section

variable {c : Client} {script : Script} {events : List Event} {j : Journal}

/-- **Every request that was sent is the request of a call.** -/
theorem mem_exchanges_kept {r : Request}
    (h : r ∈ (kept (c.answer script) j events).exchanges.map Prod.fst) :
    r ∈ j.exchanges.map Prod.fst ∨
      ∃ call, .called call ∈ events ∧ r.method = call.verb ∧ r.body = call.body? := by
  induction events generalizing j with
  | nil => exact .inl h
  | cons event events ih =>
    have later : ∀ j, r ∈ (kept (c.answer script) j events).exchanges.map Prod.fst →
        r ∈ j.exchanges.map Prod.fst ∨
          ∃ call, .called call ∈ event :: events ∧ r.method = call.verb ∧ r.body = call.body? :=
      fun j h => (ih h).imp_right fun ⟨call, hmem, hr⟩ => ⟨call, List.mem_cons_of_mem _ hmem, hr⟩
    cases event with
    | called call =>
      obtain hj | hcall := later _ h
      · obtain hnone | ⟨x, hmethod, hbody, hone⟩ := c.exchanges_answer script call j
        · exact .inl (hnone ▸ hj)
        · rw [hone, List.map_append, List.mem_append] at hj
          refine hj.imp_right fun hx => ⟨call, List.mem_cons_self, ?_⟩
          obtain rfl := List.mem_singleton.mp hx
          exact ⟨hmethod, hbody⟩
      · exact .inr hcall
    | _ => exact later j h

/-- Calls that are refused send nothing. -/
theorem sent_kept (h : ∀ call, .called call ∈ events → c.Refuses call) :
    (kept (c.answer script) j events).sent = j.sent := by
  induction events generalizing j with
  | nil => rfl
  | cons event events ih =>
    have rest := fun call hmem => h call (List.mem_cons_of_mem event hmem)
    cases event with
    | called call =>
      exact (ih rest).trans (Client.sent_of_refuses (h call List.mem_cons_self) ..)
    | _ => exact ih rest

end

end AlertDesk.Console
