import AlertDesk.Record.Alert
import AlertDesk.Record.NotificationGroup
import AlertDesk.Record.PagerDutyEndpoint
import AlertDesk.Record.Report

/-!
# AlertDesk.Record.OfKind

The record type of each kind, so that whatever is said or run for every record
type can be said or run for every kind.
-/

namespace AlertDesk

/-- The record type of a kind. -/
def Kind.Record : Kind → Type
  | .alert => Alert
  | .notificationGroup => NotificationGroup
  | .pagerDutyEndpoint => PagerDutyEndpoint
  | .report => Report

namespace Kind.Record

instance instEntity : (k : Kind) → Entity k.Record
  | .alert => inferInstanceAs (Entity Alert)
  | .notificationGroup => inferInstanceAs (Entity NotificationGroup)
  | .pagerDutyEndpoint => inferInstanceAs (Entity PagerDutyEndpoint)
  | .report => inferInstanceAs (Entity Report)

instance instDecidableEq : (k : Kind) → DecidableEq k.Record
  | .alert => inferInstanceAs (DecidableEq Alert)
  | .notificationGroup => inferInstanceAs (DecidableEq NotificationGroup)
  | .pagerDutyEndpoint => inferInstanceAs (DecidableEq PagerDutyEndpoint)
  | .report => inferInstanceAs (DecidableEq Report)

@[simp] theorem kind_eq (k : Kind) : Entity.kind k.Record = k := by cases k <;> rfl

/-- Assigns a field by its wire name.  The fields of the first three types are
texts; a report takes any value under any name. -/
def setField : (k : Kind) → k.Record → String → Json → Option k.Record
  | .alert, a, field, .str s => Alert.setField a field s
  | .notificationGroup, g, field, .str s => NotificationGroup.setField g field s
  | .pagerDutyEndpoint, e, field, .str s => PagerDutyEndpoint.setField e field s
  | .report, r, field, v => some (Report.setField r field v)
  | _, _, _, _ => none

/-- The recipients of a notification group; `none` for a record of another kind. -/
def recipients? : (k : Kind) → k.Record → Option (List Recipient)
  | .notificationGroup, g => some (NotificationGroup.recipients g)
  | _, _ => none

/-- Puts a recipient into a notification group; `none` for a record of another kind. -/
def addRecipient : (k : Kind) → k.Record → Recipient → Option Nat → Option k.Record
  | .notificationGroup, g, r, at? => some (NotificationGroup.addRecipient g r at?)
  | _, _, _, _ => none

/-- Takes a recipient out of a notification group; `none` for a record of another kind. -/
def removeRecipient : (k : Kind) → k.Record → Nat → Option k.Record
  | .notificationGroup, g, n => some (NotificationGroup.removeRecipient g n)
  | _, _, _ => none

end Kind.Record

end AlertDesk
