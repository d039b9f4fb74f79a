import AlertDesk.Record
import AlertDesk.Json.Printer

/-!
# AlertDesk.Record.NotificationGroup

Notification groups: a name and an ordered list of recipients.  The order is
the order of notification.

A recipient is tagged by its `type`; each type carries one text of its own, and
other members of the payload are passed over.  A group decodes only if every
recipient does, and reports the leftmost one that does not.
-/

namespace AlertDesk

/-- Where a notification goes. -/
inductive Recipient where
  | email (address : String)
  | webHook (address : String)
  | pagerDuty (endpointName : String)
  deriving DecidableEq

namespace Recipient

/-- The tag of a recipient. -/
def kind : Recipient → String
  | .email _ => "email"
  | .webHook _ => "webhook"
  | .pagerDuty _ => "pagerduty"

/-- Where notifications for the recipient are delivered. -/
def target : Recipient → String
  | .email address | .webHook address => address
  | .pagerDuty name => name

/-- The member that holds the target. -/
def targetKey : Recipient → String
  | .email _ | .webHook _ => "address"
  | .pagerDuty _ => "pagerDutyEndpointName"

/-- A text member that has to be there. -/
def requireText (members : List (String × Json)) (key : String) : Except PortalError String :=
  match Keyed.get? key members with
  | some (.str s) => .ok s
  | _ => .error (.decode ("recipient field '" ++ key ++ "' is missing or not a string"))

/-- Reads a recipient. -/
def decode (v : Json) : Except PortalError Recipient :=
  match v with
  | .obj members => match Keyed.get? "type" members with
    | some (.str "email") => return .email (← requireText members "address")
    | some (.str "webhook") => return .webHook (← requireText members "address")
    | some (.str "pagerduty") =>
      return .pagerDuty (← requireText members "pagerDutyEndpointName")
    | some (.str type) => throw (.unrecognizedVariant type)
    | some type => throw (.unrecognizedVariant type.compact)
    | none => throw (.decode "recipient is missing 'type'")
  | v => .error (.decode ("recipient must be an object, got " ++ v.compact))

/-- Writes a recipient. -/
def encode (r : Recipient) : Json := .obj [(r.targetKey, .str r.target), ("type", .str r.kind)]

end Recipient

/-- A notification group. -/
structure NotificationGroup where
  id : String := ""
  name : String := ""
  recipients : List Recipient := []
  deriving DecidableEq

namespace NotificationGroup

/-- The fields of a group, in the order of an array. -/
def layout : Layout where
  wanted := "struct RawNotificationGroup"
  fields := [
    { name := "id", check := checkText },
    { name := "name", check := checkText },
    { name := "recipients", otherName := some "entries", check := checkList }]

/-- Reads a group. -/
def decode (v : Json) : Except PortalError NotificationGroup := do
  let fields ← decoded (layout.read v)
  let recipients ← (itemsOf (Keyed.get? "recipients" fields)).mapM Recipient.decode
  requireId .notificationGroup NotificationGroup.id {
    id := textOf (Keyed.get? "id" fields)
    name := textOf (Keyed.get? "name" fields)
    recipients := recipients }

/-- Writes a group. -/
def encode (g : NotificationGroup) : Json := .obj [
  ("id", .str g.id),
  ("name", .str g.name),
  ("recipients", .arr (g.recipients.map Recipient.encode))]

instance : Entity NotificationGroup where
  kind := .notificationGroup
  empty := {}
  id := NotificationGroup.id
  setId g id := { g with id := id }
  decode := decode
  encode := encode

/-- Assigns the text field with a wire name; `none` if there is no such field. -/
def setField (g : NotificationGroup) (field value : String) : Option NotificationGroup :=
  match field with
  | "id" => some { g with id := value }
  | "name" => some { g with name := value }
  | _ => none

/-- Puts a recipient in at a position, at the end if the list is shorter. -/
def addRecipient (g : NotificationGroup) (r : Recipient) (at? : Option Nat) : NotificationGroup :=
  let n := at?.getD g.recipients.length
  { g with recipients := g.recipients.take n ++ r :: g.recipients.drop n }

/-- Takes out the recipient at a position, if there is one. -/
def removeRecipient (g : NotificationGroup) (n : Nat) : NotificationGroup :=
  { g with recipients := g.recipients.eraseIdx n }

end NotificationGroup

end AlertDesk
