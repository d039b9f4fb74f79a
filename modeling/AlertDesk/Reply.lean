import AlertDesk.Call

/-!
# AlertDesk.Reply

Scripted answers.  A reply is a raw value or an error; what it means depends on
the call it answers.  `Reply.script` is the portal that answers every call with
the next reply of a queue, and leaves calls unanswered once the queue is empty.
-/

namespace AlertDesk

/-- A raw answer. -/
abbrev Reply := Except PortalError Json

namespace Reply

/-- The answer a reply gives to a query. -/
def response (r : Reply) : Except PortalError QueryResponse := r.bind QueryResponse.decode

/-- The answer a reply gives to a change: the value does not matter. -/
def receipt (r : Reply) : Except PortalError Unit := r.map fun _ => ()

/-- The answer a reply gives to a call. -/
def answer (r : Reply) : (call : Call) → call.Answer
  | .get .. => r
  | .query .. => r.response
  | .upsert .. | .delete .. => r.receipt

/-- The portal of a queue of replies. -/
def script : Portal (List Reply) := fun call queue => match queue with
  | [] => (none, [])
  | r :: rest => (some (r.answer call), rest)

end Reply

end AlertDesk
