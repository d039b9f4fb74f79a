import AlertDesk.Csrf
import AlertDesk.Paging

/-!
# AlertDesk.Call

What the screens ask of the portal, and what the screens tell the user
interface.

A `Call` is one request in the screens' own terms; `Call.Answer` is what comes
back for it.  A `Portal` answers calls, threading whatever it keeps in between;
it may also leave a call without an answer.  The screens know a portal by
nothing else, so whatever holds for every `Portal` holds for every backend.
-/

namespace AlertDesk

/-- A call to the portal.  Calls that change something carry the token. -/
inductive Call where
  | get (kind : Kind) (id : String)
  | query (kind : Kind) (query : ListQuery)
  | upsert (kind : Kind) (body : Json) (token : CsrfToken)
  | delete (kind : Kind) (id : String) (token : CsrfToken)
  deriving DecidableEq

/-- What the portal answers to a call: a raw record, a page of raw records, or
just that the change was made. -/
abbrev Call.Answer : Call → Type
  | .get .. => Except PortalError Json
  | .query .. => Except PortalError QueryResponse
  | .upsert .. | .delete .. => Except PortalError Unit

/-- A portal that keeps a `σ` between calls; `none` is a call that stays unanswered. -/
abbrev Portal (σ : Type) := (call : Call) → σ → Option call.Answer × σ

/-- A portal that leaves no call unanswered. -/
def Portal.answering {σ : Type} (answer : (call : Call) → σ → call.Answer × σ) : Portal σ :=
  fun call p => (some (answer call p).1, (answer call p).2)

@[simp] theorem Portal.answering_apply {σ : Type} (answer : (call : Call) → σ → call.Answer × σ)
    (call : Call) (p : σ) :
    Portal.answering answer call p = (some (answer call p).1, (answer call p).2) := rfl

/-- What a screen tells the user interface. -/
inductive UiCommand where
  /-- Go to a route. -/
  | navigate (route : String)
  /-- Ask whether a record is to be deleted. -/
  | requestConfirmation (id : String)
  /-- Stop asking. -/
  | closeConfirmation
  deriving DecidableEq

end AlertDesk
