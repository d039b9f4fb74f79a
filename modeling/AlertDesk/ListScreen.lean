import AlertDesk.Call
import AlertDesk.PagedList

/-!
# AlertDesk.ListScreen

The list screen of one kind of record: a paged list, and deleting in two
steps.  A record is first staged, and the user is asked; only then is the
delete sent.  While it is under way no other record can be staged.

`ListScreen` holds the operations up to the moment at which the portal is
asked, and from the moment at which it has answered.  `AlertDesk.ListScreen.Session`
puts them together with the calls that are waiting in between.
-/

namespace AlertDesk

/-- How far a delete has come. -/
inductive DeleteStage where
  | idle
  /-- The user has been asked. -/
  | staged (id : String)
  /-- The delete has been sent. -/
  | inFlight (id : String)
  deriving DecidableEq

namespace DeleteStage

/-- The record that is staged or being deleted. -/
def id? : DeleteStage → Option String
  | .idle => none
  | .staged id | .inFlight id => some id

/-- Whether a delete has been sent. -/
def isInFlight : DeleteStage → Bool
  | .inFlight _ => true
  | _ => false

end DeleteStage

/-- A list screen. -/
structure ListScreen (α : Type) where
  list : PagedList α := {}
  stage : DeleteStage := .idle
  /-- The failure of the last delete, until another record is staged. -/
  deleteError : Option PortalError := none
  deriving DecidableEq

namespace ListScreen

variable {α : Type}

/-- The record that is staged or being deleted. -/
def deletingId (s : ListScreen α) : Option String := s.stage.id?

/-- Whether a delete has been sent. -/
def deleteInFlight (s : ListScreen α) : Bool := s.stage.isInFlight

/-- Stages a record, or refuses to while a delete is under way. -/
def remove (s : ListScreen α) (id : String) : Option (ListScreen α) :=
  match s.stage with
  | .inFlight _ => none
  | .idle | .staged _ => some { s with stage := .staged id, deleteError := none }

/-- Sends off the staged record, which is returned; `none` if there is none. -/
def confirm (s : ListScreen α) : Option (String × ListScreen α) :=
  match s.stage with
  | .staged id => some (id, { s with stage := .inFlight id })
  | .idle | .inFlight _ => none

/-- The delete of a record failed: it is staged again. -/
def deleteFailed (s : ListScreen α) (id : String) (e : PortalError) : ListScreen α :=
  { s with stage := .staged id, deleteError := some e }

/-- The delete went through. -/
def deleteDone (s : ListScreen α) : ListScreen α :=
  { s with stage := .idle, deleteError := none }

/-- Gives up a staged record; `none` if there is none. -/
def cancel (s : ListScreen α) : Option (ListScreen α) :=
  match s.stage with
  | .staged _ => some { s with stage := .idle }
  | .idle | .inFlight _ => none

end ListScreen

end AlertDesk
