import AlertDesk.PortalError
import AlertDesk.Text.Utf8
import AlertDesk.Url

/-!
# AlertDesk.Outcome

What the network does with a request.

A response can redirect the client to another URL.  The HTTP library follows it
there without asking, so that one call can lead to many requests: an `Outcome` is
all that comes of a request, from redirect to redirect, up to the response that is
none, or to where no response comes.  What the call is told is the end of it
(`Outcome.response?`).
-/

namespace AlertDesk

/-- A response; `complete` is false if the body breaks off. -/
structure Response where
  status : Status
  body : List UInt8
  complete : Bool
  deriving DecidableEq

/-- What a redirect makes of a request.  After a 301 or a 302 it is one or the
other, as the library and the method of the request have it. -/
inductive Redirection where
  /-- A GET without a body takes its place, as after a 303. -/
  | fetch
  /-- It is made again as it is, as after a 307 and a 308. -/
  | again
  deriving DecidableEq

/-- How many redirects are followed for one call. -/
def Redirection.limit : Nat := 10

/-- What comes of a request. -/
inductive Outcome where
  /-- The server cannot be reached; the request does not arrive. -/
  | unreachable
  /-- The request arrives, and no response does. -/
  | dropped
  /-- A response that redirects nothing.  One without a `Location`, or with one that no
  request can be made for, counts here whatever its status. -/
  | reply (status : Status) (body : List UInt8) (complete : Bool)
  /-- A response that redirects the request to a URL, and what comes of it there. -/
  | redirect (how : Redirection) (url : Url) (next : Outcome)
  deriving DecidableEq

namespace Outcome

/-- The response at the end of so many redirects at most, all of them to the web. -/
def responseWithin : Nat → Outcome → Option Response
  | _, .unreachable | _, .dropped | 0, .redirect .. => none
  | _, .reply status body complete => some ⟨status, body, complete⟩
  | n + 1, .redirect _ url next => if url.isWeb then next.responseWithin n else none

/-- The response that the call is told, if there is one. -/
def response? (o : Outcome) : Option Response := o.responseWithin Redirection.limit

end Outcome

/-- The outcomes of the calls' requests, by their number. -/
abbrev Script := Nat → Outcome

namespace Script

/-- The script of a network that cannot be reached. -/
def offline : Script := fun _ => .unreachable

/-- What a server without further replies answers. -/
def exhausted : Outcome := .reply ⟨500, by decide⟩ (Text.Utf8.bytes "no reply left") true

/-- The script of a server that has a list of outcomes to give. -/
def ofList (outcomes : List Outcome) : Script := fun n => outcomes[n]?.getD exhausted

end Script

end AlertDesk
