/-!
# AlertDesk.PortalError

What can go wrong between a user action and the portal.  Every error can be
shown and the action tried again, so errors are plain values that screens keep.

`ofStatus` is the one place where an HTTP status becomes an error.
-/

namespace AlertDesk

/-- An error of a portal operation. -/
inductive PortalError where
  /-- No response arrived. -/
  | network (reason : String)
  /-- The record does not exist. -/
  | notFound (collection id : String)
  /-- The portal refused the payload. -/
  | validation (status : Nat) (reason : String)
  /-- Somebody else changed the record. -/
  | conflict (detail : String)
  /-- A recipient's type is none of the known ones. -/
  | unrecognizedVariant (type : String)
  /-- A payload does not have the expected shape. -/
  | decode (reason : String)
  /-- A base URL or an id from which no request can be made. -/
  | invalidTarget (reason : String)
  /-- Any other status that is not a success. -/
  | server (status : Nat) (body : String)
  deriving DecidableEq

/-- An HTTP status code: three digits. -/
structure Status where
  code : Nat
  threeDigits : 100 ≤ code ∧ code ≤ 999

namespace Status

instance : DecidableEq Status := fun a b =>
  if h : a.code = b.code then isTrue (by cases a; cases b; simpa using h)
  else isFalse fun e => h (by rw [e])

/-- The status with a code, if the code has three digits. -/
def ofNat? (n : Nat) : Option Status :=
  if h : 100 ≤ n ∧ n ≤ 999 then some ⟨n, h⟩ else none

/-- A status from 200 to 299. -/
def isSuccess (s : Status) : Bool := 200 ≤ s.code && s.code ≤ 299

/-- A status from 400 to 499. -/
def isClientError (s : Status) : Bool := 400 ≤ s.code && s.code ≤ 499

end Status

namespace PortalError

/-- The text of an error. -/
def message : PortalError → String
  | .network reason => "Network error: " ++ reason
  | .notFound collection id => collection ++ " '" ++ id ++ "' not found"
  | .validation status reason => "Validation failed (HTTP " ++ Nat.repr status ++ "): " ++ reason
  | .conflict detail => "Conflict: " ++ detail
  | .unrecognizedVariant type => "Unrecognized recipient type '" ++ type ++ "'"
  | .decode reason => "Decode error: " ++ reason
  | .invalidTarget reason => "Invalid request target: " ++ reason
  | .server status body => "Server error (HTTP " ++ Nat.repr status ++ "): " ++ body

/-- The error for a status that is not a success. -/
def ofStatus (status : Status) (collection : String) (id : Option String) (body : String) :
    PortalError :=
  if status.code = 404 then .notFound collection (id.getD "")
  else if status.code = 409 then .conflict body
  else if status.isClientError then .validation status.code body
  else .server status.code body

end PortalError

end AlertDesk
