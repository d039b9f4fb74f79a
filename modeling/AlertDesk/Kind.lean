/-!
# AlertDesk.Kind

The four kinds of record the portal manages, with their names: the singular
`route` of edit links and messages, and the plural `collection` of the REST
paths, the list route, the command line and the metrics.
-/

namespace AlertDesk

/-- A kind of record. -/
inductive Kind where
  | alert
  | notificationGroup
  | pagerDutyEndpoint
  | report
  deriving DecidableEq

namespace Kind

/-- Every kind, in the order of the command line's help. -/
def all : List Kind := [.alert, .notificationGroup, .pagerDutyEndpoint, .report]

/-- The name of one record of the kind. -/
def route : Kind → String
  | .alert => "alert"
  | .notificationGroup => "notificationgroup"
  | .pagerDutyEndpoint => "pagerdutyendpoint"
  | .report => "report"

/-- The name of all records of the kind. -/
def collection : Kind → String
  | .alert => "alerts"
  | .notificationGroup => "notificationgroups"
  | .pagerDutyEndpoint => "pagerdutyendpoints"
  | .report => "reports"

/-- The link to the edit screen of a record. -/
def editUri (k : Kind) (id : String) : String := "#" ++ k.route ++ "/edit/" ++ id

/-- Where the screen goes after a save or a cancel. -/
def listRoute (k : Kind) : String := "/#" ++ k.collection

/-- A name that is no kind. -/
structure Unknown where
  name : String
  deriving DecidableEq

/-- The message for a name that is no kind. -/
def Unknown.message (u : Unknown) : String := "invalid variant: " ++ u.name

/-- An ASCII capital in lower case, every other character as it is. -/
def foldChar (c : Char) : Char := c.toLower

/-- A text with its ASCII capitals in lower case. -/
def fold (s : String) : String := String.ofList (s.toList.map foldChar)

/-- The kind with a plural name, capitals counting as such unless they are to be ignored. -/
def ofName (name : String) (ignoreCase : Bool) : Except Unknown Kind :=
  let matching (k : Kind) : Bool :=
    if ignoreCase then fold name = k.collection else name = k.collection
  match all.find? matching with
  | some k => .ok k
  | none => .error ⟨name⟩

@[simp] theorem ofName_collection (k : Kind) : ofName k.collection false = .ok k := by
  cases k <;> rfl

end Kind

end AlertDesk
