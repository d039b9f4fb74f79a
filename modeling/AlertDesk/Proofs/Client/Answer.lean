import AlertDesk.Proofs.Client.Redirects
import AlertDesk.Proofs.Client.TokenSent
import AlertDesk.Proofs.Text.Utf8

/-!
# AlertDesk.Proofs.Client.Answer

What a call to a client comes to.  Either a response came, and then the call has
sent its request and the response decides; or none did, and the call fails with
an error that says so (`Unanswered`) and that no response is ever taken for.  If the
request is redirected, the response is the one at the end of the redirects.

Main facts:

* `canSend_upsert_iff` — what it takes to send an upsert, besides a server;
* `exists_leaves` — what a call adds to the journal;
* `answer_cases` — the two ways in which a call can end;
* `get_eq_ok_iff`, `get_notFound_iff`, `upsert_eq_ok_iff`, `delete_eq_ok_iff` — which
  responses make a call succeed, and which say that there is no such record.
-/

namespace AlertDesk

/-- An error that stands for no response: the call was refused, or nothing came. -/
def PortalError.Unanswered : PortalError → Prop
  | .network _ | .invalidTarget _ => True
  | .notFound .. | .validation .. | .conflict _ | .unrecognizedVariant _ | .decode _ | .server .. =>
    False

namespace PortalError

/-- A response that says that there is no such record has the status 404. -/
theorem ofStatus_eq_notFound {status : Status} {collection : String} {id : Option String}
    {body collection' named : String}
    (h : ofStatus status collection id body = .notFound collection' named) : status.code = 404 := by
  unfold ofStatus at h
  split at h
  · next hcode => exact hcode
  · split at h
    · contradiction
    · split at h <;> contradiction

theorem not_unanswered_ofStatus {status : Status} {collection : String} {id : Option String}
    {body : String} : ¬ (ofStatus status collection id body).Unanswered := by
  unfold ofStatus
  split
  · exact not_false
  · split
    · exact not_false
    · split <;> exact not_false

end PortalError

/-- A body is read if it is complete and there is something to be read in it. -/
theorem readBody_eq_ok_iff {read : Json.Raw → Option Json} {body : List UInt8} {complete : Bool}
    {v : Json} : readBody read body complete = .ok v ↔
      complete = true ∧ read (Text.Utf8.units body) = some v := by
  unfold readBody
  split
  · next hbroken => exact iff_of_false nofun fun h => by simp [h.1] at hbroken
  · next hwhole =>
      have hcomplete : complete = true := by simpa using hwhole
      cases hread : read (Text.Utf8.units body) <;> simp [hcomplete]

/-- A body that is not read cannot be decoded. -/
theorem eq_undecodableBody_of_readBody {read : Json.Raw → Option Json} {body : List UInt8}
    {complete : Bool} {e : PortalError} (h : readBody read body complete = .error e) :
    e = undecodableBody := by
  unfold readBody at h
  split at h
  · exact (Except.error.inj h).symm
  · split at h
    · contradiction
    · exact (Except.error.inj h).symm

/-- A body has the value of the text whose UTF-8 it is. -/
theorem bodyValue_eq_ok_iff {body : List UInt8} {complete : Bool} {v : Json} :
    bodyValue body complete = .ok v ↔
      complete = true ∧ ∃ cs, body = Text.Utf8.encode cs ∧ Json.readChars cs = .ok v := by
  have htext : Json.whole Json.readChars (Text.Utf8.units body) = some v ↔
      ∃ cs, body = Text.Utf8.encode cs ∧ Json.readChars cs = .ok v := by
    simp only [Json.whole, Option.bind_eq_some_iff, ← Text.Utf8.decode?_eq_some_iff,
      Text.Utf8.decode?]
    refine exists_congr fun cs => and_congr_right fun _ => ?_
    cases Json.readChars cs <;> simp [Except.toOption]
  rw [bodyValue, readBody_eq_ok_iff, htext]

namespace Call

variable {call : Call} {status : Status} {body : List UInt8} {complete : Bool} {e : PortalError}

theorem failed_inj {e' : PortalError} : call.failed e = call.failed e' ↔ e = e' := by
  cases call <;> exact Except.error.injEq e e' ▸ Iff.rfl

/-- A success can only fail because its body cannot be decoded. -/
theorem eq_undecodableBody_of_accepted (h : call.accepted body complete = call.failed e) :
    e = undecodableBody := by
  cases call with
  | get kind id => exact eq_undecodableBody_of_readBody h
  | query kind q =>
      obtain hbody | ⟨v, -, hv⟩ := bind_eq_error_iff.mp h
      · exact eq_undecodableBody_of_readBody hbody
      · split at hv
        · contradiction
        · exact (Except.error.inj hv).symm
  | upsert kind body token => contradiction
  | delete kind id token => contradiction

/-- No response is taken for none. -/
theorem not_unanswered (h : call.answered status body complete = call.failed e) :
    ¬ e.Unanswered := by
  unfold answered at h
  split at h
  · rw [eq_undecodableBody_of_accepted h]
    exact not_false
  · rw [← failed_inj.mp h]
    exact PortalError.not_unanswered_ofStatus

end Call

/-- The response in the end says that the request was carried out. -/
def Outcome.Succeeds (o : Outcome) : Prop :=
  ∃ status body complete, o.response? = some ⟨status, body, complete⟩ ∧ status.isSuccess = true

theorem Outcome.succeeds_iff {o : Outcome} {response : Response} (h : o.response? = some response) :
    o.Succeeds ↔ response.status.isSuccess = true := by
  constructor
  · rintro ⟨status, body, complete, h', success⟩
    obtain rfl := Option.some.inj (h.symm.trans h')
    exact success
  · exact fun success => ⟨_, _, _, h, success⟩

theorem Outcome.not_succeeds {o : Outcome} (h : o.response? = none) : ¬ o.Succeeds := by
  simp [Succeeds, h]

namespace Client

variable {c : Client} {script : Script} {call : Call} {j : Journal} {r : Request}

/-- The call sends a request. -/
def CanSend (c : Client) (call : Call) : Prop := ∃ r, c.Sends call r

/-- A call that is refused sends none. -/
theorem not_canSend_of_refuses (h : c.Refuses call) : ¬ c.CanSend call := by
  rintro ⟨r, hsends⟩
  obtain ⟨u, p, hurl, -⟩ := sends_iff.mp hsends
  obtain ⟨e, hrefused⟩ := refuses_iff_url.mp h
  simp [hurl] at hrefused

/-- The call sends a request, and that is the `n`-th and gets a response in the end. -/
def Replied (c : Client) (script : Script) (call : Call) (n : Nat) (status : Status)
    (body : List UInt8) (complete : Bool) : Prop :=
  c.CanSend call ∧ (script n).response? = some ⟨status, body, complete⟩

/-- There is one response at most. -/
theorem Replied.inj {call' : Call} {n : Nat} {status status' : Status} {body body' : List UInt8}
    {complete complete' : Bool} (h : c.Replied script call n status body complete)
    (h' : c.Replied script call' n status' body' complete') :
    status = status' ∧ body = body' ∧ complete = complete' :=
  Response.mk.inj (Option.some.inj (h.2.symm.trans h'.2))

/-- With a server that records can be looked up at, all that an upsert takes is a
token and a URL that can be sent. -/
theorem canSend_upsert_iff {kind : Kind} {id : String} {body : Json} {token : CsrfToken}
    (hget : c.CanSend (.get kind id)) :
    c.CanSend (.upsert kind body token) ↔ token.Printable ∧ c.Reaches kind [] := by
  obtain ⟨r, sent⟩ := hget
  obtain ⟨url, p, hurl, hbuild, -⟩ := sends_iff.mp sent
  have hcall : (Call.get kind id).record? = some (kind, id) := rfl
  obtain rfl : c.endpoint kind [id] = url := by
    simpa [url_of_record hcall, recordUrl, not_refused hcall sent] using hurl
  obtain ⟨path, hendpoint⟩ := c.endpoint_eq kind [id]
  have hhost : c.base.hasHost = true := by
    have h := (Prepared.build_eq_ok_iff.mp hbuild).1
    rwa [hendpoint] at h
  have hweb : c.base.isWeb = true := by
    have h := (target_of_build hcall hbuild).2
    rwa [hendpoint] at h
  have hchanges : (Call.upsert kind body token).Changes token [] := .upsert kind body
  have hsends := sendsWith_iff hhost hweb hchanges
  refine Iff.trans ⟨?_, ?_⟩ hsends
  · rintro ⟨w, sent⟩
    obtain ⟨_, _, -, hbuild, rfl⟩ := sends_iff.mp sent
    obtain ⟨-, -, -, rfl⟩ := Prepared.build_eq_ok_iff.mp hbuild
    exact ⟨_, sent, rfl, rfl⟩
  · rintro ⟨w, sent, -⟩
    exact ⟨w, sent⟩

/-! ## what a call leaves behind -/

/-- What a call adds to a journal of `n` exchanges: its request, if it can send one. -/
inductive Leaves (c : Client) (script : Script) (call : Call) (n : Nat) :
    List (Request × Outcome) → Prop
  | nothing (unsent : ¬ c.CanSend call) : Leaves c script call n []
  | request {r : Request} (sent : c.Sends call r) : Leaves c script call n [(r, script n)]

theorem exists_leaves (c : Client) (script : Script) (call : Call) (j : Journal) :
    ∃ new, c.Leaves script call j.exchanges.length new ∧
      (c.answer script call j).2.exchanges = j.exchanges ++ new := by
  by_cases hsend : c.CanSend call
  · obtain ⟨r, sent⟩ := hsend
    exact ⟨_, .request sent, sent script j⟩
  · refine ⟨[], .nothing hsend, ?_⟩
    simp only [answer, perform, Journal.exchanges_count, List.append_nil]
    cases hurl : c.url call with
    | error e => rfl
    | ok url =>
        cases hbuild : Prepared.build call url with
        | error reason => simp only [hbuild, Journal.exchanges_count]
        | ok p => exact absurd ⟨_, sends_iff.mpr ⟨url, p, hurl, hbuild, rfl⟩⟩ hsend

/-- What a call sends has its method and its body. -/
theorem request_of_sends (h : c.Sends call r) : r.method = call.verb ∧ r.body = call.body? := by
  obtain ⟨url, p, -, hbuild, rfl⟩ := sends_iff.mp h
  exact request_of_build hbuild

theorem sends_inj {r' : Request} (h : c.Sends call r) (h' : c.Sends call r') : r = r' := by
  have heq := (h .offline {}).symm.trans (h' .offline {})
  simpa using heq

namespace Leaves

variable {n : Nat} {new : List (Request × Outcome)}

theorem mem_iff (h : c.Leaves script call n new) {x : Request × Outcome} :
    x ∈ new ↔ c.Sends call x.1 ∧ x.2 = script n := by
  cases h with
  | nothing unsent => exact iff_of_false (List.not_mem_nil) fun hx => unsent ⟨x.1, hx.1⟩
  | request sent =>
      rw [List.mem_singleton]
      constructor
      · rintro rfl
        exact ⟨sent, rfl⟩
      · rintro ⟨sent', houtcome⟩
        exact Prod.ext (sends_inj sent' sent) houtcome

theorem sublist (h : c.Leaves script call n new) :
    (new.map fun x => x.1.method).Sublist [call.verb] := by
  cases h with
  | nothing => exact List.nil_sublist _
  | request sent => simp [request_of_sends sent]

end Leaves

/-! ## how a call ends -/

/-- An identifier that is refused is an invalid target. -/
theorem unanswered_of_url {e : PortalError} (h : c.url call = .error e) : e.Unanswered := by
  obtain ⟨reason, rfl⟩ := invalidTarget_of_url h
  exact trivial

/-- A call that has a URL ends with a response, or the network is the reason why not. -/
theorem answer_of_url {u : Url} (hurl : c.url call = .ok u) (script : Script) (j : Journal) :
    (∃ status body complete, c.Replied script call j.exchanges.length status body complete ∧
      (c.answer script call j).1 = call.answered status body complete) ∨
    ((∀ status body complete, ¬ c.Replied script call j.exchanges.length status body complete) ∧
      ∃ reason, (c.answer script call j).1 = call.failed (.network reason)) := by
  simp only [answer, perform, hurl]
  cases hbuild : Prepared.build call u with
  | error reason =>
      refine .inr ⟨fun _ _ _ h => ?_, reason, rfl⟩
      obtain ⟨r, hsends⟩ := h.1
      obtain ⟨u', p, hurl', hbuild', -⟩ := sends_iff.mp hsends
      obtain rfl := Except.ok.inj (hurl.symm.trans hurl')
      simp [hbuild] at hbuild'
  | ok p =>
      have hsend : c.CanSend call := ⟨_, sends_iff.mpr ⟨u, p, hurl, hbuild, rfl⟩⟩
      simp only [send, Replied]
      cases hresponse : (script j.exchanges.length).response? with
      | some response =>
          have hsettle := Prepared.settle_eq_ok_iff (u := p.url).mpr hresponse
          exact .inl ⟨_, _, _, ⟨hsend, rfl⟩, by rw [hsettle]⟩
      | none =>
          obtain ⟨reason, hsettle⟩ := Prepared.exists_settle_eq_error p.url hresponse
          exact .inr ⟨by simp, reason, by rw [hsettle]⟩

/-- **A call ends with a response or without one.** -/
theorem answer_cases (c : Client) (script : Script) (call : Call) (j : Journal) :
    (∃ status body complete, c.Replied script call j.exchanges.length status body complete ∧
      (c.answer script call j).1 = call.answered status body complete) ∨
    ((∀ status body complete, ¬ c.Replied script call j.exchanges.length status body complete) ∧
      ∃ e : PortalError, e.Unanswered ∧ (c.answer script call j).1 = call.failed e) := by
  cases hurl : c.url call with
  | error e =>
      refine .inr ⟨fun _ _ _ h => ?_, e, unanswered_of_url hurl, ?_⟩
      · obtain ⟨r, hsends⟩ := h.1
        obtain ⟨u, p, hurl', -⟩ := sends_iff.mp hsends
        simp [hurl] at hurl'
      · simp only [answer, perform, hurl]
  | ok u =>
      refine (answer_of_url hurl script j).imp id (And.imp id ?_)
      rintro ⟨reason, heq⟩
      exact ⟨.network reason, trivial, heq⟩

/-- A body is read or cannot be decoded. -/
theorem eq_undecodableBody_of_bodyValue {body : List UInt8} {complete : Bool} {e : PortalError}
    (h : bodyValue body complete = .error e) : e = undecodableBody :=
  eq_undecodableBody_of_readBody h

/-! ## records that are looked up, and records that are written -/

variable {kind : Kind} {id : String} {body : Json} {token : CsrfToken}

theorem get_eq_ok_iff {v : Json} : (c.answer script (.get kind id) j).1 = .ok v ↔
    ∃ status body complete,
      c.Replied script (.get kind id) j.exchanges.length status body complete ∧
      status.isSuccess = true ∧ bodyValue body complete = .ok v := by
  obtain ⟨status, body, complete, replied, heq⟩ | ⟨unreplied, e, -, heq⟩ :=
    answer_cases c script (.get kind id) j
  · rw [heq, Call.answered]
    constructor
    · intro h
      split at h
      · next hsuccess => exact ⟨status, body, complete, replied, hsuccess, h⟩
      · contradiction
    · rintro ⟨_, _, _, replied', hsuccess, hv⟩
      obtain ⟨rfl, rfl, rfl⟩ := replied.inj replied'
      rw [if_pos hsuccess]
      exact hv
  · rw [heq]
    exact iff_of_false nofun fun ⟨_, _, _, replied, _⟩ => unreplied _ _ _ replied

theorem get_notFound_iff :
    (∃ collection named,
      (c.answer script (.get kind id) j).1 = .error (.notFound collection named)) ↔
    ∃ status body complete,
      c.Replied script (.get kind id) j.exchanges.length status body complete ∧
      status.code = 404 := by
  obtain ⟨status, body, complete, replied, heq⟩ | ⟨unreplied, e, unanswered, heq⟩ :=
    answer_cases c script (.get kind id) j
  · rw [heq, Call.answered]
    constructor
    · rintro ⟨collection, named, h⟩
      refine ⟨status, body, complete, replied, ?_⟩
      split at h
      · -- a body that cannot be read says nothing about the record
        have hbody := eq_undecodableBody_of_bodyValue h
        contradiction
      · exact PortalError.ofStatus_eq_notFound (Except.error.inj h)
    · rintro ⟨_, _, _, replied', hcode⟩
      obtain ⟨rfl, rfl, rfl⟩ := replied.inj replied'
      have hfailure : status.isSuccess = false := by simp [Status.isSuccess, hcode]
      simp [hfailure, PortalError.ofStatus, hcode, Call.failed]
  · rw [heq]
    refine iff_of_false ?_ fun ⟨_, _, _, replied, _⟩ => unreplied _ _ _ replied
    rintro ⟨collection, named, h⟩
    rw [Except.error.inj h] at unanswered
    exact unanswered

/-- A call that reads nothing in a success fails unless a response says that it
was carried out. -/
theorem not_failed_iff (reads : ∀ body complete e, call.accepted body complete ≠ call.failed e) :
    (∀ e, (c.answer script call j).1 ≠ call.failed e) ↔
      c.CanSend call ∧ (script j.exchanges.length).Succeeds := by
  obtain ⟨status, text, complete, replied, heq⟩ | ⟨unreplied, e, -, heq⟩ :=
    answer_cases c script call j
  · rw [heq, Call.answered]
    constructor
    · intro h
      split at h
      · next hsuccess => exact ⟨replied.1, status, text, complete, replied.2, hsuccess⟩
      · exact absurd rfl (h _)
    · rintro ⟨hsend, _, _, _, hresponse, hsuccess⟩
      obtain ⟨rfl, rfl, rfl⟩ := replied.inj ⟨hsend, hresponse⟩
      rw [if_pos hsuccess]
      exact reads text complete
  · refine iff_of_false (fun h => h e heq) ?_
    rintro ⟨hsend, _, _, _, hresponse, -⟩
    exact unreplied _ _ _ ⟨hsend, hresponse⟩

theorem eq_ok_iff_ne_error {r : Except PortalError Unit} : r = .ok () ↔ ∀ e, r ≠ .error e := by
  cases r <;> simp

theorem upsert_eq_ok_iff : (c.answer script (.upsert kind body token) j).1 = .ok () ↔
    c.CanSend (.upsert kind body token) ∧ (script j.exchanges.length).Succeeds :=
  eq_ok_iff_ne_error.trans (not_failed_iff fun _ _ _ => nofun)

theorem delete_eq_ok_iff : (c.answer script (.delete kind id token) j).1 = .ok () ↔
    c.CanSend (.delete kind id token) ∧ (script j.exchanges.length).Succeeds :=
  eq_ok_iff_ne_error.trans (not_failed_iff fun _ _ _ => nofun)

end Client

end AlertDesk
