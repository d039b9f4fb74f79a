import AlertDesk.Client

/-!
# AlertDesk.Proofs.Client.Redirects

What redirects lead to.

Which response a call is told is a matter of the outcome alone, and not of the
request.  On the wire, a request passes its token on to those that follow it, and
either its method and its body, or neither; its credentials never reach another
host or port (`Prepared.Passes`).  Without redirects there is nothing on the wire
but the requests of the calls.

Main facts:

* `Prepared.settle_eq_ok_iff` — which response a call is told;
* `Prepared.passes_of_mem_followed` — what a request passes on to those that follow it;
* `Journal.wire_of_direct` — what is on the wire without redirects.
-/

namespace AlertDesk

/-- The outcome does not begin with a redirect. -/
def Outcome.Direct : Outcome → Prop
  | .redirect .. => False
  | .unreachable | .dropped | .reply .. => True

namespace Prepared

variable {o : Outcome} {u : Url} {p q r : Prepared} {response : Response} {x : Prepared × Outcome}

/-! ## the end of the redirects -/

theorem toOption_settleWithin (n : Nat) (u : Url) (o : Outcome) :
    (settleWithin n u o).toOption = o.responseWithin n := by
  induction n generalizing u o with
  | zero => cases o <;> rfl
  | succ n ih =>
    cases o with
    | redirect how url next =>
      rw [settleWithin, Outcome.responseWithin]
      split
      · exact ih url next
      · rfl
    | _ => rfl

/-- **A call is told the response that its outcome ends with**, whatever the request. -/
theorem settle_eq_ok_iff : settle u o = .ok response ↔ o.response? = some response := by
  rw [Outcome.response?, ← toOption_settleWithin _ u, settle]
  cases settleWithin Redirection.limit u o <;> simp [Except.toOption]

/-- Without a response there is a reason why. -/
theorem exists_settle_eq_error (u : Url) (h : o.response? = none) :
    ∃ reason, settle u o = .error reason := by
  cases hsettle : settle u o with
  | error reason => exact ⟨reason, rfl⟩
  | ok response => simp [settle_eq_ok_iff.mp hsettle] at h

/-! ## behind a request -/

/-- What a request passes on to one that follows it: its token, both its method and
its body or neither, and to the same host and port its credentials. -/
structure Passes (p q : Prepared) : Prop where
  token : q.request.token = p.request.token
  kept : (q.request.method = p.request.method ∧ q.request.body = p.request.body) ∨
    (q.request.method = "GET" ∧ q.request.body = none)
  credentials : q.request.authorization ≠ none →
    q.url.host = p.url.host ∧ q.url.knownPort? = p.url.knownPort? ∧
      q.request.authorization = p.request.authorization

theorem passes_follow (p : Prepared) (how : Redirection) (url : Url) :
    p.Passes (p.follow how url) where
  token := rfl
  kept := by cases how <;> simp [follow]
  credentials := by
    intro given
    by_cases place : url.host = p.url.host ∧ url.knownPort? = p.url.knownPort?
    · exact ⟨place.1, place.2, if_pos place⟩
    · exact absurd (if_neg place) given

theorem Passes.trans (h : p.Passes q) (h' : q.Passes r) : p.Passes r where
  token := h'.token.trans h.token
  kept := by
    obtain ⟨method, body⟩ | lost := h'.kept
    · rw [method, body]
      exact h.kept
    · exact .inr lost
  credentials := by
    intro given
    obtain ⟨host', port', same'⟩ := h'.credentials given
    obtain ⟨host, port, same⟩ := h.credentials (same' ▸ given)
    exact ⟨host'.trans host, port'.trans port, same'.trans same⟩

/-- **What a request passes on to those that follow it.** -/
theorem passes_of_mem_followed (h : x ∈ p.followed o) : p.Passes x.1 := by
  unfold followed at h
  -- however many redirects may still be followed, each link passes on what it was given
  generalize Redirection.limit = n at h
  induction n generalizing p o with
  | zero => simp [followedWithin] at h
  | succ n ih =>
    cases o with
    | redirect how url next =>
      rw [followedWithin] at h
      split at h
      · obtain rfl | later := List.mem_cons.mp h
        · exact passes_follow p how url
        · exact (passes_follow p how url).trans (ih later)
      · contradiction
    | _ => simp [followedWithin] at h

/-- Requests that go round in circles come to an end. -/
theorem length_followed_le (p : Prepared) (o : Outcome) :
    (p.followed o).length ≤ Redirection.limit := by
  unfold followed
  generalize Redirection.limit = n
  induction n generalizing p o with
  | zero => simp [followedWithin]
  | succ n ih =>
    cases o with
    | redirect how url next =>
      rw [followedWithin]
      split
      · exact Nat.succ_le_succ (ih ..)
      · exact Nat.zero_le _
    | _ => simp [followedWithin]

/-- Nothing follows a request that is not redirected. -/
theorem followed_of_direct (h : o.Direct) : p.followed o = [] := by
  cases o with
  | redirect => exact False.elim h
  | _ => rfl

end Prepared

/-! ## on the wire -/

namespace Journal

variable {j : Journal} {x : Prepared × Outcome}

theorem mem_wire_iff : x ∈ j.wire ↔ x ∈ j.sent ∨ ∃ y ∈ j.sent, x ∈ y.1.followed y.2 := by
  simp only [wire, List.mem_flatMap, List.mem_cons]
  constructor
  · rintro ⟨y, hy, rfl | hx⟩
    · exact .inl hy
    · exact .inr ⟨y, hy, hx⟩
  · rintro (hx | ⟨y, hy, hx⟩)
    · exact ⟨x, hx, .inl rfl⟩
    · exact ⟨y, hy, .inr hx⟩

/-- A change on the wire is the request of a call, or the same once more. -/
theorem exchange_of_mem_wire (h : x ∈ j.wire) (change : x.1.request.method ≠ "GET") :
    ∃ y ∈ j.exchanges, y.1.method = x.1.request.method ∧ x.1.request.body = y.1.body := by
  obtain hx | ⟨y, hy, hx⟩ := mem_wire_iff.mp h
  · exact ⟨_, List.mem_map_of_mem hx, rfl, rfl⟩
  · obtain ⟨method, body⟩ | ⟨get, -⟩ := (Prepared.passes_of_mem_followed hx).kept
    · exact ⟨_, List.mem_map_of_mem hy, method.symm, body⟩
    · exact absurd get change

/-- **Without redirects nothing but the calls' requests goes over the wire.** -/
theorem wire_of_direct (h : ∀ x ∈ j.exchanges, x.2.Direct) :
    j.wire.map (fun x => (x.1.request, x.2)) = j.exchanges := by
  have alone : ∀ x ∈ j.sent, x :: x.1.followed x.2 = [x] := fun x hx => by
    rw [Prepared.followed_of_direct (h _ (List.mem_map_of_mem hx))]
  rw [wire, List.flatMap_def, List.map_congr_left alone, ← List.flatMap_def,
    List.flatMap_singleton', exchanges]

end Journal

end AlertDesk
