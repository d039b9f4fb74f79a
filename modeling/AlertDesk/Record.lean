import AlertDesk.Json
import AlertDesk.Kind
import AlertDesk.Layout
import AlertDesk.PortalError

/-!
# AlertDesk.Record

What the four record types have in common: an identifier, an empty record, and
the two directions between records and wire JSON.

`decode` is the only way from JSON to a record, and refuses a record without an
identifier; `encode` never fails.  Links are computed from the identifier the
record has at that moment.
-/

namespace AlertDesk

/-- A record type. -/
class Entity (α : Type) where
  /-- The kind of the records. -/
  kind : Kind
  /-- The record with every field empty. -/
  empty : α
  /-- The identifier. -/
  id : α → String
  /-- The same record under another identifier. -/
  setId : α → String → α
  /-- Reads a record. -/
  decode : Json → Except PortalError α
  /-- Writes a record. -/
  encode : α → Json

namespace Entity

variable {α : Type} [Entity α]

/-- The empty record under an identifier. -/
def blank (id : String) : α := setId empty id

/-- The link to the edit screen of a record. -/
def editUri (r : α) : String := (kind α).editUri (id r)

end Entity

/-- A mismatch as the error of a decoder. -/
def Mismatch.toError (m : Mismatch) : PortalError := .decode m.message

/-- Passes a record on if it has an identifier. -/
def requireId {α : Type} (kind : Kind) (id : α → String) (r : α) : Except PortalError α :=
  if id r = "" then .error (.decode (kind.route ++ " record is missing an id")) else .ok r

/-- A reader's result as the result of a decoder. -/
def decoded {α : Type} : Except Mismatch α → Except PortalError α
  | .ok a => .ok a
  | .error m => .error m.toError

end AlertDesk
