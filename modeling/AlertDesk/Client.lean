import AlertDesk.Call
import AlertDesk.Json.Kept
import AlertDesk.Json.Printer
import AlertDesk.Metrics
import AlertDesk.Outcome
import AlertDesk.Settings
import AlertDesk.Text.Base64
import AlertDesk.Url.Reader

/-!
# AlertDesk.Client

The portal over HTTP.

A call becomes a request in three steps, each of which can fail: its URL is
built (`url`), the request is put together (`Prepared.build`), and it is sent.
What the network does with a request is an `Outcome`; the outcomes of the
requests sent so far come from a script, so that everything the client does is a
function of base URL, calls and script.

The HTTP library follows redirects as it does by default.  A call has one request
of its own, which stands in the journal with all that came of it
(`Journal.exchanges`); on the wire there are also those that follow it
(`Prepared.followed`, `Journal.wire`), and the last response is the call's.

`Client.portal` is the client as a `Portal`: it keeps a `Journal` of the
requests and of the events that are counted.  Every call is timed once; a call
whose request was put together or refused by the network is counted once more,
as a success if the status says so and as a failure otherwise.
-/

namespace AlertDesk

/-! ## requests -/

/-- What a request says; header fields that are not sent are `none`.  Those that the
HTTP library adds of itself are left out. -/
structure Request where
  method : String
  target : String
  authorization : Option String := none
  token : Option CsrfToken := none
  /-- A JSON body, sent as `application/json`. -/
  body : Option Json := none
  deriving DecidableEq

/-- A request that has been put together, and the URL it goes to. -/
structure Prepared where
  url : Url
  request : Request
  deriving DecidableEq

namespace Prepared

/-- The request that follows a redirect.  Its credentials are for the host and the
port that they were for at first; all other fields of the header go along. -/
def follow (p : Prepared) (how : Redirection) (url : Url) : Prepared where
  url
  request := { p.request with
    method := match how with
      | .fetch => "GET"
      | .again => p.request.method
    target := url.target
    authorization :=
      if url.host = p.url.host ∧ url.knownPort? = p.url.knownPort? then p.request.authorization
      else none
    body := match how with
      | .fetch => none
      | .again => p.request.body }

/-- The requests that follow one from redirect to redirect, so many at most, each
with what comes of it. -/
def followedWithin : Nat → Prepared → Outcome → List (Prepared × Outcome)
  | n + 1, p, .redirect how url next =>
    if url.isWeb then (p.follow how url, next) :: followedWithin n (p.follow how url) next else []
  | _, _, _ => []

/-- The requests that follow one with this outcome. -/
def followed (p : Prepared) (o : Outcome) : List (Prepared × Outcome) :=
  followedWithin Redirection.limit p o

end Prepared

/-- What a client has done. -/
structure Journal where
  /-- The requests of the calls, each with what came of it. -/
  sent : List (Prepared × Outcome) := []
  events : List Metrics.Event := []

namespace Journal

/-- The requests of the calls, by what they say. -/
def exchanges (j : Journal) : List (Request × Outcome) := j.sent.map fun x => (x.1.request, x.2)

/-- All that went over the wire: the requests of the calls, and behind each of them
those that followed it. -/
def wire (j : Journal) : List (Prepared × Outcome) :=
  j.sent.flatMap fun x => x :: x.1.followed x.2

/-- The requests that arrived. -/
def arrived (j : Journal) : List Request :=
  (j.wire.filter fun x => x.2 ≠ .unreachable).map (·.1.request)

/-- Counts an event. -/
def count (j : Journal) (e : Metrics.Event) : Journal := { j with events := j.events ++ [e] }

/-- Keeps a request and its outcome. -/
def record (j : Journal) (p : Prepared) (o : Outcome) : Journal :=
  { j with sent := j.sent ++ [(p, o)] }

@[simp] theorem events_count (j : Journal) (e : Metrics.Event) :
    (j.count e).events = j.events ++ [e] := rfl

@[simp] theorem events_record (j : Journal) (p : Prepared) (o : Outcome) :
    (j.record p o).events = j.events := rfl

@[simp] theorem exchanges_count (j : Journal) (e : Metrics.Event) :
    (j.count e).exchanges = j.exchanges := rfl

@[simp] theorem exchanges_record (j : Journal) (p : Prepared) (o : Outcome) :
    (j.record p o).exchanges = j.exchanges ++ [(p.request, o)] := List.map_append

end Journal

/-! ## calls -/

namespace Call

/-- The kind of record a call is about. -/
def kind : Call → Kind
  | .get kind _ | .query kind _ | .upsert kind .. | .delete kind .. => kind

/-- What a call is counted as. -/
def method : Call → Metrics.Method
  | .get .. => .get
  | .query .. => .query
  | .upsert .. => .upsert
  | .delete .. => .delete

/-- The method of a call's request. -/
def verb : Call → String
  | .get .. | .query .. => "GET"
  | .upsert .. => "PUT"
  | .delete .. => "DELETE"

/-- The token that a call carries. -/
def token? : Call → Option CsrfToken
  | .upsert _ _ token | .delete _ _ token => some token
  | .get .. | .query .. => none

/-- The body that a call sends. -/
def body? : Call → Option Json
  | .upsert _ body _ => some body
  | _ => none

/-- The record a call is about, as an error names it. -/
def recordId? : Call → Option String
  | .get _ id | .delete _ id _ => some id
  | .upsert _ body _ => (body.get? "id").bind Json.text?
  | .query .. => none

/-- An error as the answer to a call. -/
def failed (e : PortalError) : (call : Call) → call.Answer
  | .get .. | .query .. | .upsert .. | .delete .. => .error e

end Call

/-! ## bodies -/

/-- The error for the body of a success that cannot be read. -/
def undecodableBody : PortalError := .decode "error decoding response body"

/-- What a reader of JSON texts makes of a body. -/
def readBody (read : Json.Raw → Option Json) (body : List UInt8) (complete : Bool) :
    Except PortalError Json :=
  if !complete then .error undecodableBody
  else match read (Text.Utf8.units body) with
    | some v => .ok v
    | none => .error undecodableBody

/-- The value of a body. -/
def bodyValue (body : List UInt8) (complete : Bool) : Except PortalError Json :=
  readBody (Json.whole Json.readChars) body complete

/-- The text of an error's body; empty if it breaks off. -/
def bodyText (body : List UInt8) (complete : Bool) : String :=
  if complete then String.ofList (Text.Utf8.decodeLossy (Text.Utf8.dropMark body)) else ""

/-- The answer that the body of a success gives. -/
def Call.accepted (body : List UInt8) (complete : Bool) : (call : Call) → call.Answer
  | .get .. => bodyValue body complete
  | .query .. => do
    let v ← readBody (Json.selected QueryResponse.layout.owns) body complete
    match QueryResponse.decode v with
    | .ok r => return r
    | .error _ => throw undecodableBody
  | .upsert .. | .delete .. => .ok ()

/-- The answer that a response gives. -/
def Call.answered (call : Call) (status : Status) (body : List UInt8) (complete : Bool) :
    call.Answer :=
  if status.isSuccess then call.accepted body complete
  else call.failed
    (.ofStatus status call.kind.collection call.recordId? (bodyText body complete))

/-! ## the client -/

/-- A client for the portal at a base URL. -/
structure Client where
  base : Url

namespace Client

/-- The client for the settings. -/
def ofSettings (s : Settings) : Except PortalError Client :=
  match Url.parse (Text.dropTrailingSlashes s.url) with
  | .error fault => .error (.invalidTarget (s.url ++ ": " ++ fault.message))
  | .ok base =>
    if base.carriesPath then .ok ⟨base⟩
    else .error (.invalidTarget (s.url ++ " cannot carry a path"))

/-- The URL of a kind's records, or of something below them. -/
def endpoint (c : Client) (kind : Kind) (segments : List String) : Url :=
  c.base.extend ("v1" :: kind.collection :: segments)

/-- The URL of a record.  An identifier that names no segment is refused. -/
def recordUrl (c : Client) (kind : Kind) (id : String) : Except PortalError Url :=
  if id = "" ∨ id = "." ∨ id = ".." then
    .error (.invalidTarget ("'" ++ id ++ "' is not a usable " ++ kind.route ++ " id"))
  else .ok (c.endpoint kind [id])

/-- The URL of a call, without its parameters. -/
def url (c : Client) : Call → Except PortalError Url
  | .get kind id | .delete kind id _ => c.recordUrl kind id
  | .query kind _ => .ok (c.endpoint kind ["query"])
  | .upsert kind .. => .ok (c.endpoint kind [])

end Client

namespace Prepared

/-- A failure that names the URL. -/
def failureFor (what : String) (u : Url) : String := what ++ " for url (" ++ u.text ++ ")"

/-- What a failure to put a request together is called. -/
def builderError : String := "builder error"

/-- How a request ends that so many redirects at most are followed for: with a
response, or with the reason why none came. -/
def settleWithin : Nat → Url → Outcome → Except String Response
  | _, u, .unreachable | _, u, .dropped => .error (failureFor "error sending request" u)
  | _, _, .reply status body complete => .ok ⟨status, body, complete⟩
  | 0, u, .redirect .. => .error (failureFor "error following redirect" u)
  | n + 1, _, .redirect _ url next =>
    if url.isWeb then settleWithin n url next else .error (failureFor builderError url)

/-- How a request to a URL ends. -/
def settle (u : Url) (o : Outcome) : Except String Response := settleWithin Redirection.limit u o

/-- User name and password of a URL as a header field, and the URL without them.
A user name that is not UTF-8 stays in the URL. -/
def credentials (u : Url) : Url × Option String :=
  if u.user = "" ∧ u.password = none then (u, none)
  else match Text.Utf8.decode? (Url.Percent.decodeChars u.user.toList) with
    | none => (u, none)
    | some user =>
      let password := (u.password.bind fun p =>
        Text.Utf8.decode? (Url.Percent.decodeChars p.toList)).getD []
      let text := Text.Utf8.encode (user ++ ':' :: password)
      (u.withoutUser, some ("Basic " ++ String.ofList (Text.Base64.encode text)))

/-- Adds a call's parameters to its URL. -/
def parametrized (u : Url) : Call → Url
  | .query _ q => u.withParameters q.pairs
  | _ => u

/-- The longest URL that can be sent. -/
def longest : Nat := 65534

/-- Whether a URL can be sent: web servers only, no longer than the limit, and no
character in the host that a request line cannot have. -/
def isSendable (u : Url) : Bool :=
  u.isWeb && u.text.length ≤ longest &&
    (u.host.getD "").toList.all fun c => !"\"\x60\x7b\x7d".toList.contains c

/-- Puts the request of a call together; the error is the reason why it cannot be. -/
def build (call : Call) (url : Url) : Except String Prepared :=
  if !url.hasHost then .error (failureFor builderError url)
  else
    let (url, authorization) := credentials url
    let url := parametrized url call
    if call.token?.any (!·.fitsHeader) then .error builderError
    else if !isSendable url then .error (failureFor builderError url)
    else .ok {
      url
      request := {
        method := call.verb, target := url.target, authorization
        token := call.token?, body := call.body? } }

end Prepared

namespace Client

/-- Sends a request, the outcome coming from the script. -/
def send (script : Script) (call : Call) (p : Prepared) (j : Journal) : call.Answer × Journal :=
  let outcome := script j.exchanges.length
  let j := j.record p outcome
  match Prepared.settle p.url outcome with
  | .error reason =>
    (call.failed (.network reason), j.count (.request call.kind call.method .failure))
  | .ok response =>
    (call.answered response.status response.body response.complete,
      j.count (.request call.kind call.method
        (if response.status.isSuccess then .success else .failure)))

/-- Makes a call, apart from timing it. -/
def perform (c : Client) (script : Script) (call : Call) (j : Journal) : call.Answer × Journal :=
  match c.url call with
  | .error e => (call.failed e, j)
  | .ok url => match Prepared.build call url with
    | .error reason =>
      (call.failed (.network reason), j.count (.request call.kind call.method .failure))
    | .ok p => send script call p j

/-- Makes a call and times it. -/
def answer (c : Client) (script : Script) (call : Call) (j : Journal) : call.Answer × Journal :=
  let (answer, j) := c.perform script call j
  (answer, j.count (.timed call.kind call.method))

/-- The client as a portal. -/
def portal (c : Client) (script : Script) : Portal Journal := .answering (c.answer script)

end Client

end AlertDesk
