import AlertDesk.Record

/-!
# AlertDesk.Record.PagerDutyEndpoint

PagerDuty integration endpoints.  The address has an older spelling,
`pagerDutyUrl`, that is read but never written.
-/

namespace AlertDesk

/-- A PagerDuty endpoint. -/
structure PagerDutyEndpoint where
  id : String := ""
  name : String := ""
  address : String := ""
  serviceKey : String := ""
  comment : String := ""
  deriving DecidableEq

namespace PagerDutyEndpoint

/-- The fields of an endpoint, in the order of an array. -/
def layout : Layout where
  wanted := "struct PagerDutyEndpoint"
  fields := [
    { name := "id", check := checkText },
    { name := "name", check := checkText },
    { name := "address", otherName := some "pagerDutyUrl", check := checkText },
    { name := "serviceKey", check := checkText },
    { name := "comment", check := checkText }]

/-- The endpoint with the given fields. -/
def ofFields (fields : List (String × Json)) : PagerDutyEndpoint where
  id := textOf (Keyed.get? "id" fields)
  name := textOf (Keyed.get? "name" fields)
  address := textOf (Keyed.get? "address" fields)
  serviceKey := textOf (Keyed.get? "serviceKey" fields)
  comment := textOf (Keyed.get? "comment" fields)

/-- Reads an endpoint. -/
def decode (v : Json) : Except PortalError PagerDutyEndpoint := do
  let fields ← decoded (layout.read v)
  requireId .pagerDutyEndpoint PagerDutyEndpoint.id (ofFields fields)

/-- Writes an endpoint. -/
def encode (e : PagerDutyEndpoint) : Json := .obj [
  ("address", .str e.address),
  ("comment", .str e.comment),
  ("id", .str e.id),
  ("name", .str e.name),
  ("serviceKey", .str e.serviceKey)]

instance : Entity PagerDutyEndpoint where
  kind := .pagerDutyEndpoint
  empty := {}
  id := PagerDutyEndpoint.id
  setId e id := { e with id := id }
  decode := decode
  encode := encode

/-- Assigns the field with a wire name; `none` if there is no such field. -/
def setField (e : PagerDutyEndpoint) (field value : String) : Option PagerDutyEndpoint :=
  match field with
  | "id" => some { e with id := value }
  | "name" => some { e with name := value }
  | "address" => some { e with address := value }
  | "serviceKey" => some { e with serviceKey := value }
  | "comment" => some { e with comment := value }
  | _ => none

end PagerDutyEndpoint

end AlertDesk
