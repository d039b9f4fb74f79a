import AlertDesk.Proofs.Client.Answer
import AlertDesk.Proofs.Json.Kept
import AlertDesk.Proofs.Paging.Forwarded

/-!
# AlertDesk.Proofs.Client.Classified

What a call takes a response for, the one at the end of the redirects if there are
any.  The status decides between success and failure, for every operation alike.
Of a failure it also decides the error (`PortalError.Reports`); of a success only
the body is left to be read, by those operations that return something (`Reads`).

Main facts:

* `PortalError.reports_iff` — a status that is not a success reports one error;
* `Call.answered_get`, `Call.answered_query` — what the body of a success means;
* `Client.replies_classified` — every response is classified the same way.
-/

namespace AlertDesk

open Text

/-! ## failures -/

/-- The identifier that a call asks for: for an upsert the one in the record, if it
is a text, and for a query none. -/
def Call.requestedId : Call → String
  | .get _ id | .delete _ id _ => id
  | .query .. => ""
  | .upsert _ record _ => match record.get? "id" with
    | some (.str id) => id
    | _ => ""

theorem Call.getD_recordId? (call : Call) : call.recordId?.getD "" = call.requestedId := by
  cases call with
  | get kind id => rfl
  | query kind q => rfl
  | upsert kind record token =>
      simp only [recordId?, requestedId]
      cases record.get? "id" with
      | none => rfl
      | some v => cases v <;> rfl
  | delete kind id token => rfl

/-- The error that a status other than a success reports, about the records of a
collection, one that was asked for, and with the text of the body. -/
inductive PortalError.Reports (collection id text : String) :
    (code : Nat) → PortalError → Prop where
  | notFound : Reports collection id text 404 (.notFound collection id)
  | conflict : Reports collection id text 409 (.conflict text)
  | validation {code : Nat} (client : 400 ≤ code ∧ code ≤ 499) (other : code ≠ 404 ∧ code ≠ 409) :
      Reports collection id text code (.validation code text)
  | server {code : Nat} (other : ¬ (200 ≤ code ∧ code ≤ 299) ∧ ¬ (400 ≤ code ∧ code ≤ 499)) :
      Reports collection id text code (.server code text)

namespace PortalError

variable {collection text : String} {id : Option String} {status : Status} {e : PortalError}

/-- **A status that is not a success reports one error.** -/
theorem reports_iff (failure : status.isSuccess = false) :
    Reports collection (id.getD "") text status.code e ↔
      e = ofStatus status collection id text := by
  have hfailure : ¬ (200 ≤ status.code ∧ status.code ≤ 299) := by
    simpa [Status.isSuccess] using failure
  have hclient : status.isClientError = true ↔ 400 ≤ status.code ∧ status.code ≤ 499 := by
    simp [Status.isClientError]
  unfold ofStatus
  constructor
  · generalize hcode : status.code = code at *
    rintro (_ | _ | ⟨client, other⟩ | ⟨-, other⟩)
    · rfl
    · rfl
    · rw [if_neg other.1, if_neg other.2, if_pos (hclient.mpr client)]
    · have hother : code ≠ 404 ∧ code ≠ 409 := by omega
      rw [if_neg hother.1, if_neg hother.2, if_neg (mt hclient.mp other)]
  · rintro rfl
    split
    · next hcode => exact hcode ▸ .notFound
    · next hmissing =>
        split
        · next hcode => exact hcode ▸ .conflict
        · next hconflict =>
            split
            · next client => exact .validation (hclient.mp client) ⟨hmissing, hconflict⟩
            · next other => exact .server ⟨hfailure, mt hclient.mpr other⟩

/-- None of these errors is about a body that cannot be decoded. -/
theorem Reports.ne_decode {code : Nat} {requested : String}
    (h : Reports collection requested text code e) (reason : String) : e ≠ .decode reason := by
  cases h <;> exact nofun

end PortalError

/-! ## successes -/

/-- The answer is what is meant, and a failure to decode it if nothing is. -/
structure Reads {α : Type} (answer : Except PortalError α) (means : α → Prop) : Prop where
  ok : ∀ a, answer = .ok a ↔ means a
  error : (∀ a, ¬ means a) → ∃ reason, answer = .error (.decode reason)

namespace QueryResponse

/-- A body holds a value for a response: of an object those members that a response
has, and whatever else it may be as a whole. -/
def Holds (body : List UInt8) (v : Json) : Prop :=
  Json.selected layout.owns (Utf8.units body) = some v

/-- Members that a response does not have are without influence. -/
theorem decode_select (v : Json) : decode (v.select layout.owns) = decode v := by
  cases v with
  | obj members =>
      have hread : layout.read (.obj (members.filter fun p => layout.owns p.1)) =
          layout.read (.obj members) := layout.readMembers_filter [] members
      rw [Json.select, decode, hread, decode]
  | _ => rfl

/-- **A text holds for a response what it stands for.** -/
theorem holds_text {cs : List Char} {v : Json} (h : Json.keptChars cs = .ok v) :
    Holds (Utf8.encode cs) (v.select layout.owns) := by
  rw [Holds, Utf8.units_encode]
  exact Json.selected_of_keptChars h

end QueryResponse

namespace Call

variable {status : Status} {body : List UInt8} {complete : Bool} {kind : Kind}

/-- An answer to a success is read, or cannot be decoded. -/
theorem reads_of_accepted {α : Type} {answer : Except PortalError α} {means : α → Prop}
    (ok : ∀ a, answer = .ok a ↔ means a) (error : ∀ e, answer = .error e → e = undecodableBody) :
    Reads answer means := by
  refine ⟨ok, fun nothing => ?_⟩
  cases hanswer : answer with
  | ok a => exact absurd ((ok a).mp hanswer) (nothing a)
  | error e => exact ⟨_, congrArg Except.error (error e hanswer)⟩

/-- **A record that is fetched is the value of the body**, if it is the text of one. -/
theorem answered_get (success : status.isSuccess = true) (kind : Kind) (id : String)
    (body : List UInt8) (complete : Bool) :
    Reads ((Call.get kind id).answered status body complete) fun v =>
      complete = true ∧ ∃ cs, body = Utf8.encode cs ∧ Json.readChars cs = .ok v := by
  rw [answered, if_pos success]
  exact reads_of_accepted (fun v => bodyValue_eq_ok_iff) fun e => eq_undecodableBody_of_readBody

/-- **A page is what the body holds of a response.** -/
theorem answered_query (success : status.isSuccess = true) (kind : Kind) (q : ListQuery)
    (body : List UInt8) (complete : Bool) :
    Reads ((Call.query kind q).answered status body complete) fun r =>
      complete = true ∧ ∃ v, QueryResponse.Holds body v ∧ QueryResponse.decode v = .ok r := by
  rw [answered, if_pos success]
  refine reads_of_accepted (fun r => ?_) fun e (h : (Call.query kind q).accepted body complete =
    (Call.query kind q).failed e) => eq_undecodableBody_of_accepted h
  -- the body is read first, and what was read is decoded
  refine bind_eq_ok_iff.trans ?_
  simp only [readBody_eq_ok_iff]
  constructor
  · rintro ⟨v, ⟨hcomplete, hholds⟩, hr⟩
    split at hr
    · next r' hdecode => exact ⟨hcomplete, v, hholds, hdecode.trans hr⟩
    · contradiction
  · rintro ⟨hcomplete, v, hholds, hr⟩
    refine ⟨v, ⟨hcomplete, hholds⟩, ?_⟩
    rw [hr]
    rfl

/-- **A change that succeeds is acknowledged**, whatever the body is. -/
theorem answered_upsert (success : status.isSuccess = true) (record : Json) (token : CsrfToken) :
    (Call.upsert kind record token).answered status body complete = .ok () := if_pos success

theorem answered_delete (success : status.isSuccess = true) (id : String) (token : CsrfToken) :
    (Call.delete kind id token).answered status body complete = .ok () := if_pos success

end Call

/-! ## every response -/

namespace Client

variable {c : Client} {script : Script} {call : Call} {j : Journal} {status : Status}
  {body : List UInt8} {complete : Bool}

/-- A response decides the answer. -/
theorem answer_of_response (hsend : c.CanSend call)
    (hresponse : (script j.exchanges.length).response? = some ⟨status, body, complete⟩) :
    (c.answer script call j).1 = call.answered status body complete := by
  obtain ⟨_, _, _, replied, heq⟩ | ⟨unreplied, -⟩ := answer_cases c script call j
  · obtain ⟨rfl, rfl, rfl⟩ := replied.inj ⟨hsend, hresponse⟩
    exact heq
  · exact absurd ⟨hsend, hresponse⟩ (unreplied status body complete)

/-- **A call that sends a request fails for the network if and only if no response comes.** -/
theorem network_iff (hsend : c.CanSend call) :
    (∃ reason, (c.answer script call j).1 = call.failed (.network reason)) ↔
      (script j.exchanges.length).response? = none := by
  obtain ⟨r, hsends⟩ := hsend
  obtain ⟨u, p, hurl, -⟩ := sends_iff.mp hsends
  obtain ⟨status, body, complete, ⟨-, hresponse⟩, heq⟩ | ⟨unreplied, hnetwork⟩ :=
    answer_of_url hurl script j
  · refine iff_of_false ?_ (by simp [hresponse])
    rintro ⟨reason, hreason⟩
    exact Call.not_unanswered (heq.symm.trans hreason) trivial
  · refine iff_of_true hnetwork (Option.eq_none_iff_forall_ne_some.mpr fun response hresponse => ?_)
    exact unreplied _ _ _ ⟨⟨r, hsends⟩, hresponse⟩

/-- The text of a body that is a text leaves out a byte order mark in front. -/
theorem bodyText_encode (cs : List Char) : bodyText (Utf8.encode cs) true =
    String.ofList (if cs.head? = some '\uFEFF' then cs.tail else cs) := by
  rw [bodyText, if_pos rfl, Utf8.decodeLossy_dropMark_encode]

/-- **Every response is classified the same way.**  A call that sends a request fails
for the network if and only if no response comes.  With a success an upsert and a
delete succeed, whatever the body is; a fetch gives the value of the body and a query
the response that the body holds, if it is complete and such a text, and fails to
decode it otherwise.  Members that a response does not have are passed over; of a body
that can be read with them the response is what it stands for.  With any other status
the call fails with the error that the status reports, which is never one of decoding.
The text of the body in it is empty if the body breaks off; otherwise what is not UTF-8
is replaced in it, and a byte order mark in front is left out. -/
theorem replies_classified (c : Client) (script : Script) (j : Journal) :
    (∀ call, c.CanSend call →
      ((∃ reason, (c.answer script call j).1 = call.failed (.network reason)) ↔
        (script j.exchanges.length).response? = none)) ∧
    (∀ status body complete,
      (script j.exchanges.length).response? = some ⟨status, body, complete⟩ →
      (status.isSuccess = true →
        (∀ kind record token, c.CanSend (.upsert kind record token) →
          (c.answer script (.upsert kind record token) j).1 = .ok ()) ∧
        (∀ kind id token, c.CanSend (.delete kind id token) →
          (c.answer script (.delete kind id token) j).1 = .ok ()) ∧
        (∀ kind id, c.CanSend (.get kind id) →
          Reads (c.answer script (.get kind id) j).1 fun v =>
            complete = true ∧ ∃ cs, body = Utf8.encode cs ∧ Json.readChars cs = .ok v) ∧
        ∀ kind q, c.CanSend (.query kind q) →
          (Reads (c.answer script (.query kind q) j).1 fun r =>
            complete = true ∧ ∃ v, QueryResponse.Holds body v ∧ QueryResponse.decode v = .ok r) ∧
          ((∃ r, (c.answer script (.query kind q) j).1 = .ok r) ↔
            complete = true ∧ ∃ v, QueryResponse.Holds body v ∧ v.Follows QueryResponse.format) ∧
          (complete = true → ∀ cs v, body = Utf8.encode cs → Json.keptChars cs = .ok v →
            (∀ r, (c.answer script (.query kind q) j).1 = .ok r ↔
              QueryResponse.decode v = .ok r) ∧
            ((∃ r, (c.answer script (.query kind q) j).1 = .ok r) ↔
              v.Follows QueryResponse.format))) ∧
      (status.isSuccess = false → ∀ call, c.CanSend call →
        ∃ e : PortalError, (c.answer script call j).1 = call.failed e ∧
          PortalError.Reports call.kind.collection call.requestedId (bodyText body complete)
            status.code e ∧
          ∀ reason, e ≠ .decode reason)) ∧
    (∀ body, bodyText body false = "" ∧ bodyText body true =
      String.ofList ((Utf8.units (Utf8.dropMark body)).map fun unit => unit.getD '\uFFFD')) ∧
    ∀ cs, bodyText (Utf8.encode cs) true =
      String.ofList (if cs.head? = some '\uFEFF' then cs.tail else cs) := by
  refine ⟨fun call => network_iff, fun status body complete hresponse => ⟨fun success => ?_, ?_⟩,
    fun body => ⟨rfl, rfl⟩, bodyText_encode⟩
  · refine ⟨fun kind record token hsend => ?_, fun kind id token hsend => ?_,
      fun kind id hsend => ?_, fun kind q hsend => ?_⟩
    · rw [answer_of_response hsend hresponse, Call.answered_upsert success]
    · rw [answer_of_response hsend hresponse, Call.answered_delete success]
    · rw [answer_of_response hsend hresponse]
      exact Call.answered_get success kind id body complete
    · rw [answer_of_response hsend hresponse]
      have hreads := Call.answered_query success kind q body complete
      refine ⟨hreads, ?_, fun hcomplete cs v hbody hkept => ?_⟩
      · simp only [hreads.ok, ← QueryResponse.exists_decode_iff]
        constructor
        · rintro ⟨r, hcomplete, v, hholds, hr⟩
          exact ⟨hcomplete, v, hholds, r, hr⟩
        · rintro ⟨hcomplete, v, hholds, r, hr⟩
          exact ⟨r, hcomplete, v, hholds, hr⟩
      · have hdecode : ∀ r, (Call.query kind q).answered status body complete = .ok r ↔
            QueryResponse.decode v = .ok r := by
          intro r
          have hholds : QueryResponse.Holds body (v.select QueryResponse.layout.owns) :=
            hbody ▸ QueryResponse.holds_text hkept
          rw [hreads.ok, ← QueryResponse.decode_select v]
          constructor
          · rintro ⟨-, w, hw, hr⟩
            obtain rfl := Option.some.inj (hholds.symm.trans hw)
            exact hr
          · exact fun hr => ⟨hcomplete, _, hholds, hr⟩
        exact ⟨hdecode, by simp only [hdecode, QueryResponse.exists_decode_iff]⟩
  · intro failure call hsend
    have hreports : PortalError.Reports call.kind.collection (call.recordId?.getD "")
        (bodyText body complete) status.code (.ofStatus status call.kind.collection call.recordId?
          (bodyText body complete)) := (PortalError.reports_iff failure).mpr rfl
    rw [Call.getD_recordId?] at hreports
    refine ⟨_, ?_, hreports, hreports.ne_decode⟩
    rw [answer_of_response hsend hresponse, Call.answered, failure, if_neg Bool.false_ne_true]

/-- A record that is missing is named by its identifier, and an upsert succeeds though
the body breaks off.  A page whose records are given twice cannot be decoded, and one
beside a number out of all bounds can. -/
theorem replies_classified_desk :
    let lost : Script := .ofList [.reply ⟨404, by decide⟩ [] true]
    let torn : Script := .ofList [.reply ⟨201, by decide⟩ [] false]
    let twice : Script := .ofList
      [.reply ⟨200, by decide⟩ (Utf8.bytes "\x7b\"data\":[1],\"data\":[2]\x7d") true]
    let beside : Script := .ofList
      [.reply ⟨200, by decide⟩ (Utf8.bytes "\x7b\"next\":1e999,\"data\":[2]\x7d") true]
    desk.CanSend (.delete .alert "a1" ⟨"t"⟩) ∧ desk.CanSend (.upsert .alert .null ⟨"t"⟩) ∧
      desk.CanSend (.query .alert {}) ∧
      (desk.answer lost (.delete .alert "a1" ⟨"t"⟩) {}).1 = .error (.notFound "alerts" "a1") ∧
      (desk.answer torn (.upsert .alert .null ⟨"t"⟩) {}).1 = .ok () ∧
      (∃ reason, (desk.answer twice (.query .alert {}) {}).1 = .error (.decode reason)) ∧
      (desk.answer beside (.query .alert {}) {}).1 = .ok { data := [.num (.int 2)] } := by
  intro lost torn twice beside
  have hdelete : desk.CanSend (.delete .alert "a1" ⟨"t"⟩) :=
    ⟨_, sends_iff.mpr ⟨_, _, rfl, rfl, rfl⟩⟩
  have hupsert : desk.CanSend (.upsert .alert .null ⟨"t"⟩) :=
    ⟨_, sends_iff.mpr ⟨_, _, rfl, rfl, rfl⟩⟩
  have hquery : desk.CanSend (.query .alert {}) := ⟨_, sends_iff.mpr ⟨_, _, rfl, rfl, rfl⟩⟩
  refine ⟨hdelete, hupsert, hquery, ?_, ?_, ?_, ?_⟩
  · obtain ⟨-, hreply, -⟩ := replies_classified desk lost {}
    obtain ⟨e, he, hreports, -⟩ := (hreply _ _ _ rfl).2 rfl _ hdelete
    rw [he]
    cases hreports with
    | notFound => rfl
    | validation client other => exact absurd rfl other.1
    | server other => exact absurd ⟨by decide, by decide⟩ other.2
  · obtain ⟨-, hreply, -⟩ := replies_classified desk torn {}
    exact ((hreply _ _ _ rfl).1 rfl).1 _ _ _ hupsert
  · obtain ⟨-, hreply, -⟩ := replies_classified desk twice {}
    obtain ⟨hreads, -, htext⟩ := ((hreply _ _ _ rfl).1 rfl).2.2.2 _ _ hquery
    have hmembers : Json.keptChars "\x7b\"data\":[1],\"data\":[2]\x7d".toList =
        .ok (.obj [("data", .arr [.num (.int 1)]), ("data", .arr [.num (.int 2)])]) :=
      eq_ok_of_toOption (by decide +kernel)
    obtain ⟨-, hshape⟩ := htext rfl _ _ rfl hmembers
    refine hreads.error fun r hr => ?_
    have hfollows := hshape.mp ⟨r, (hreads.ok r).mpr hr⟩
    exact absurd (hfollows.once 0 _ rfl) (by decide)
  · obtain ⟨-, hreply, -⟩ := replies_classified desk beside {}
    obtain ⟨hreads, -⟩ := ((hreply _ _ _ rfl).1 rfl).2.2.2 _ _ hquery
    have hholds : Json.selected QueryResponse.layout.owns
        (Utf8.units (Utf8.bytes "\x7b\"next\":1e999,\"data\":[2]\x7d")) =
          some (.obj [("data", .arr [.num (.int 2)])]) := by decide +kernel
    exact (hreads.ok _).mpr ⟨rfl, _, hholds, rfl⟩

end Client

end AlertDesk
