import AlertDesk.Proofs.Client.Redirects

/-!
# AlertDesk.Proofs.Client.Token

One token in place of another.

A call, a request and a journal can be given a token in place of the one they
have (`withToken`): calls and requests that carry none are left as they are.  A
portal is *indifferent* between two tokens if it answers calls with the one as
it answers calls with the other, and what it keeps is the same up to a change
(`Portal.Indifferent`).

Main facts:

* `Prepared.build_withToken` — the token goes into the request as it is, and
  nowhere else;
* `Journal.bareWire_withToken` — with another token the same goes over the wire, but
  for the token;
* `Client.indifferent` — a client is indifferent between tokens that both fit
  into a header field, or both do not, up to the tokens in its journal.
-/

namespace AlertDesk

variable {a b : CsrfToken}

/-! ## calls -/

namespace Call

/-- The call with another token, if it carries one. -/
def withToken (t : CsrfToken) : Call → Call
  | .get kind id => .get kind id
  | .query kind q => .query kind q
  | .upsert kind body _ => .upsert kind body t
  | .delete kind id _ => .delete kind id t

/-- An answer to a call, as the answer to the call with another token. -/
def readdress (t : CsrfToken) : (call : Call) → call.Answer → (call.withToken t).Answer
  | .get .., answer | .query .., answer | .upsert .., answer | .delete .., answer => answer

variable {call : Call}

@[simp] theorem withToken_withToken : (call.withToken a).withToken b = call.withToken b := by
  cases call <;> rfl

@[simp] theorem verb_withToken : (call.withToken a).verb = call.verb := by
  cases call <;> rfl

@[simp] theorem body?_withToken : (call.withToken a).body? = call.body? := by
  cases call <;> rfl

@[simp] theorem kind_withToken : (call.withToken a).kind = call.kind := by
  cases call <;> rfl

@[simp] theorem method_withToken : (call.withToken a).method = call.method := by
  cases call <;> rfl

/-- What is sent with a request for the call: the token, or nothing if it only reads. -/
theorem token?_withToken :
    (call.withToken a).token? = if call.verb = "GET" then none else some a := by
  cases call <;> rfl

theorem failed_withToken (e : PortalError) :
    (call.withToken a).failed e = call.readdress a (call.failed e) := by
  cases call <;> rfl

theorem answered_withToken (status : Status) (body : List UInt8) (complete : Bool) :
    (call.withToken a).answered status body complete =
      call.readdress a (call.answered status body complete) := by
  cases call <;> rfl

end Call

/-! ## requests -/

/-- The request with another token in its header, unless it only reads. -/
def Request.withToken (t : CsrfToken) (r : Request) : Request :=
  { r with token := if r.method = "GET" then none else some t }

/-- The same request, with another token in its header. -/
def Prepared.withToken (t : CsrfToken) (p : Prepared) : Prepared :=
  { p with request := p.request.withToken t }

/-- The journal with another token in the headers of its requests. -/
def Journal.withToken (t : CsrfToken) (j : Journal) : Journal :=
  { j with sent := j.sent.map fun x => (x.1.withToken t, x.2) }

namespace Prepared

theorem parametrized_withToken (u : Url) (call : Call) :
    parametrized u (call.withToken a) = parametrized u call := by
  cases call <;> rfl

/-- **The token goes into the request as it is, and nowhere else.** -/
theorem build_withToken {call : Call}
    (hfits : (call.withToken b).token?.any (!·.fitsHeader) = call.token?.any (!·.fitsHeader))
    (u : Url) : build (call.withToken b) u = (build call u).map (withToken b) := by
  unfold build
  simp only [hfits, parametrized_withToken]
  split
  · rfl
  · split
    · rfl
    · split
      · rfl
      · simp [Except.map, withToken, Request.withToken, Call.token?_withToken]

end Prepared

/-! ## what goes over the wire -/

/-- The same request without its token. -/
def Prepared.bare (p : Prepared) : Prepared :=
  { p with request := { p.request with token := none } }

/-- What went over the wire, without its tokens. -/
def Journal.bareWire (j : Journal) : List (Prepared × Outcome) :=
  j.wire.map fun x => (x.1.bare, x.2)

/-- The token has no influence on which requests follow. -/
theorem Prepared.followed_bare (p : Prepared) (o : Outcome) :
    p.bare.followed o = (p.followed o).map fun x => (x.1.bare, x.2) := by
  unfold followed
  generalize Redirection.limit = n
  induction n generalizing p o with
  | zero => rfl
  | succ n ih =>
    cases o with
    | redirect how url next =>
      have hfollow : p.bare.follow how url = (p.follow how url).bare := rfl
      simp only [followedWithin, hfollow, ih]
      split <;> rfl
    | _ => rfl

namespace Journal

theorem bareWire_eq (j : Journal) :
    j.bareWire = j.sent.flatMap fun x => (x.1.bare, x.2) :: x.1.bare.followed x.2 := by
  simp only [bareWire, wire, List.map_flatMap, List.map_cons, Prepared.followed_bare]

/-- **On the wire there are the same requests, but for their tokens.** -/
theorem bareWire_withToken (t : CsrfToken) (j : Journal) :
    (j.withToken t).bareWire = j.bareWire := by
  simp only [bareWire_eq, withToken, List.flatMap_map]
  rfl

/-- Which requests have the token in their header. -/
structure TokenOnWire (t : CsrfToken) (j : Journal) : Prop where
  /-- Of the requests of calls those that change something. -/
  own : ∀ x ∈ j.sent, x.1.request.token = if x.1.request.method = "GET" then none else some t
  /-- Behind a redirect those that follow one of these, whatever has become of it. -/
  followed : ∀ x ∈ j.sent, ∀ y ∈ x.1.followed x.2, y.1.request.token = x.1.request.token
  /-- So there is no change without it, -/
  changes : ∀ x ∈ j.wire, x.1.request.method ≠ "GET" → x.1.request.token = some t
  /-- and what only reads has it behind a redirect of a change alone. -/
  reads : ∀ x ∈ j.wire, x.1.request.method = "GET" → x.1.request.token ≠ none →
    ∃ y ∈ j.sent, y.1.request.method ≠ "GET" ∧ x ∈ y.1.followed y.2

/-- A journal that is what it is with the token in place of its own has it where it belongs. -/
theorem tokenOnWire_of_withToken {t : CsrfToken} {j : Journal} (h : j.withToken t = j) :
    TokenOnWire t j := by
  have hsent : j.sent.map id = j.sent.map fun x => (x.1.withToken t, x.2) := by
    rw [List.map_id]
    exact congrArg sent h.symm
  have own : ∀ x ∈ j.sent,
      x.1.request.token = if x.1.request.method = "GET" then none else some t :=
    fun x hx => congrArg (·.1.request.token) (List.map_inj_left.mp hsent x hx)
  have followed : ∀ x ∈ j.sent, ∀ y ∈ x.1.followed x.2, y.1.request.token = x.1.request.token :=
    fun x _ y hy => (Prepared.passes_of_mem_followed hy).token
  refine ⟨own, followed, fun x hx hmethod => ?_, fun x hx hmethod htoken => ?_⟩
  · obtain hx | ⟨y, hy, hx⟩ := mem_wire_iff.mp hx
    · rw [own x hx, if_neg hmethod]
    · obtain ⟨same, -⟩ | ⟨get, -⟩ := (Prepared.passes_of_mem_followed hx).kept
      · rw [followed y hy x hx, own y hy, if_neg (same ▸ hmethod)]
      · exact absurd get hmethod
  · obtain hx | ⟨y, hy, hx⟩ := mem_wire_iff.mp hx
    · rw [own x hx, if_pos hmethod] at htoken
      exact absurd rfl htoken
    · refine ⟨y, hy, fun hget => htoken ?_, hx⟩
      rw [followed y hy x hx, own y hy, if_pos hget]

end Journal

/-! ## portals -/

/-- The portal answers calls with the token `b` as it answers calls with the
token `a`; what it keeps is then changed by `change`. -/
structure Portal.Indifferent {σ : Type} (portal : Portal σ) (a b : CsrfToken)
    (change : σ → σ) : Prop where
  get : ∀ kind id p, portal (.get kind id) (change p) =
    ((portal (.get kind id) p).1, change (portal (.get kind id) p).2)
  query : ∀ kind q p, portal (.query kind q) (change p) =
    ((portal (.query kind q) p).1, change (portal (.query kind q) p).2)
  upsert : ∀ kind body p, portal (.upsert kind body b) (change p) =
    ((portal (.upsert kind body a) p).1, change (portal (.upsert kind body a) p).2)
  delete : ∀ kind id p, portal (.delete kind id b) (change p) =
    ((portal (.delete kind id a) p).1, change (portal (.delete kind id a) p).2)

/-- One token is as good as itself. -/
theorem Portal.Indifferent.refl {σ : Type} (portal : Portal σ) (a : CsrfToken) :
    portal.Indifferent a a id :=
  ⟨fun _ _ _ => rfl, fun _ _ _ => rfl, fun _ _ _ => rfl, fun _ _ _ => rfl⟩

namespace Client

theorem url_withToken (c : Client) (call : Call) : c.url (call.withToken a) = c.url call := by
  cases call <;> rfl

theorem send_withToken (script : Script) (call : Call) (p : Prepared) (j : Journal) :
    send script (call.withToken b) (p.withToken b) (j.withToken b) =
      (call.readdress b (send script call p j).1, (send script call p j).2.withToken b) := by
  have hlength : (j.withToken b).exchanges.length = j.exchanges.length := by
    simp [Journal.exchanges, Journal.withToken]
  have hurl : (p.withToken b).url = p.url := rfl
  unfold send
  dsimp only
  rw [hlength, hurl]
  cases Prepared.settle p.url (script j.exchanges.length) <;>
    simp [Call.failed_withToken, Call.answered_withToken, Journal.withToken, Journal.record,
      Journal.count]

theorem answer_withToken (c : Client) (script : Script) (call : Call)
    (hfits : (call.withToken b).token?.any (!·.fitsHeader) = call.token?.any (!·.fitsHeader))
    (j : Journal) : c.answer script (call.withToken b) (j.withToken b) =
      (call.readdress b (c.answer script call j).1, (c.answer script call j).2.withToken b) := by
  have hcount : ∀ (j : Journal) (e : Metrics.Event),
      (j.withToken b).count e = (j.count e).withToken b := fun _ _ => rfl
  unfold answer perform
  rw [url_withToken]
  cases c.url call with
  | error e => simp [Call.failed_withToken, hcount]
  | ok u =>
      simp only [Prepared.build_withToken hfits]
      cases Prepared.build call u with
      | error reason => simp [Except.map, Call.failed_withToken, hcount]
      | ok p => simp [Except.map, send_withToken, hcount]

theorem portal_withToken (c : Client) (script : Script) (call : Call)
    (hfits : (call.withToken b).token?.any (!·.fitsHeader) = call.token?.any (!·.fitsHeader))
    (j : Journal) : c.portal script (call.withToken b) (j.withToken b) =
      ((c.portal script call j).1.map (call.readdress b),
        (c.portal script call j).2.withToken b) := by
  simp only [portal, Portal.answering_apply, answer_withToken c script call hfits, Option.map_some]

/-- **A client is indifferent between tokens** that both fit into a header field,
or both do not, up to the tokens in its journal. -/
theorem indifferent (c : Client) (script : Script) (hfits : a.fitsHeader = b.fitsHeader) :
    (c.portal script).Indifferent a b (Journal.withToken b) where
  get kind id := c.portal_withToken script (.get kind id) rfl
  query kind q := c.portal_withToken script (.query kind q) rfl
  upsert kind body := c.portal_withToken script (.upsert kind body a)
    (by simp [Call.withToken, Call.token?, hfits])
  delete kind id := c.portal_withToken script (.delete kind id a)
    (by simp [Call.withToken, Call.token?, hfits])

end Client

end AlertDesk
