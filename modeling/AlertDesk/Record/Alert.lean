import AlertDesk.Record

/-!
# AlertDesk.Record.Alert

Alerts: a query checked at an interval, and the group to notify.  Every field
is a text; a missing field or null reads as the empty text.
-/

namespace AlertDesk

/-- An alert. -/
structure Alert where
  id : String := ""
  name : String := ""
  query : String := ""
  checkInterval : String := ""
  comment : String := ""
  notificationGroupId : String := ""
  deriving DecidableEq

namespace Alert

/-- The fields of an alert, in the order of an array. -/
def layout : Layout where
  wanted := "struct Alert"
  fields := [
    { name := "id", check := checkText },
    { name := "name", check := checkText },
    { name := "query", check := checkText },
    { name := "checkInterval", check := checkText },
    { name := "comment", check := checkText },
    { name := "notificationGroupId", check := checkText }]

/-- The alert with the given fields. -/
def ofFields (fields : List (String × Json)) : Alert where
  id := textOf (Keyed.get? "id" fields)
  name := textOf (Keyed.get? "name" fields)
  query := textOf (Keyed.get? "query" fields)
  checkInterval := textOf (Keyed.get? "checkInterval" fields)
  comment := textOf (Keyed.get? "comment" fields)
  notificationGroupId := textOf (Keyed.get? "notificationGroupId" fields)

/-- Reads an alert. -/
def decode (v : Json) : Except PortalError Alert := do
  let fields ← decoded (layout.read v)
  requireId .alert Alert.id (ofFields fields)

/-- Writes an alert. -/
def encode (a : Alert) : Json := .obj [
  ("checkInterval", .str a.checkInterval),
  ("comment", .str a.comment),
  ("id", .str a.id),
  ("name", .str a.name),
  ("notificationGroupId", .str a.notificationGroupId),
  ("query", .str a.query)]

instance : Entity Alert where
  kind := .alert
  empty := {}
  id := Alert.id
  setId a id := { a with id := id }
  decode := decode
  encode := encode

/-- Assigns the field with a wire name; `none` if there is no such field. -/
def setField (a : Alert) (field value : String) : Option Alert :=
  match field with
  | "id" => some { a with id := value }
  | "name" => some { a with name := value }
  | "query" => some { a with query := value }
  | "checkInterval" => some { a with checkInterval := value }
  | "comment" => some { a with comment := value }
  | "notificationGroupId" => some { a with notificationGroupId := value }
  | _ => none

end Alert

end AlertDesk
