import AlertDesk.Kind
import AlertDesk.Keyed

/-!
# AlertDesk.Metrics

Counts of what the client did: how many requests of each kind and method
succeeded or failed, and how many were timed.

What happened is kept as a list of events; a sample is the number of times an
event occurred, and there is no sample for an event that never did.
-/

namespace AlertDesk.Metrics

/-- What a request is for. -/
inductive Method where
  | get | query | upsert | delete
  deriving DecidableEq

/-- The name of a method in a label. -/
def Method.label : Method → String
  | .get => "get"
  | .query => "query"
  | .upsert => "upsert"
  | .delete => "delete"

/-- How a request ended. -/
inductive Status where
  | success | failure
  deriving DecidableEq

/-- The name of a status in a label. -/
def Status.label : Status → String
  | .success => "success"
  | .failure => "failure"

/-- Something that is counted. -/
inductive Event where
  /-- A request came to its end. -/
  | request (kind : Kind) (method : Method) (status : Status)
  /-- The duration of a request was taken. -/
  | timed (kind : Kind) (method : Method)
  deriving DecidableEq

/-- A label of a sample. -/
def label (name value : String) : String := name ++ "=\"" ++ value ++ "\""

/-- The name of the sample that counts an event, with its labels. -/
def Event.sample : Event → String
  | .request kind method status =>
    "portal_requests_total\x7b" ++ label "entity" kind.collection ++ "," ++
      label "method" method.label ++ "," ++ label "status" status.label ++ "\x7d"
  | .timed kind method =>
    "portal_request_duration_seconds_count\x7b" ++ label "entity" kind.collection ++ "," ++
      label "method" method.label ++ "\x7d"

/-- How often an event occurred. -/
def count (events : List Event) (e : Event) : Nat := events.count e

/-- The samples of a list of events, each with its count. -/
def samples (events : List Event) : Dict Nat :=
  Dict.ofList (events.map fun e => (e.sample, count events e))

end AlertDesk.Metrics
