import AlertDesk.Client

/-!
# AlertDesk.Proofs.Client.Request

What a client is made of, and what a request is put together from.

Main facts:

* `Prepared.build_eq_ok_iff` — when a request can be put together, and which it is;
* `Client.parse_of_ofSettings` — the base URL of a client is the one in its settings.
-/

namespace AlertDesk

variable {call : Call} {u : Url} {p : Prepared}

namespace Prepared

/-- All that credentials take out of a URL is user name and password. -/
theorem credentials_url (u : Url) : (credentials u).1 = u ∨ (credentials u).1 = u.withoutUser := by
  unfold credentials
  split
  · exact .inl rfl
  · split
    · exact .inl rfl
    · exact .inr rfl

/-- **When a request can be put together, and which it is.** -/
theorem build_eq_ok_iff : build call u = .ok p ↔
    u.hasHost = true ∧ (∀ t, call.token? = some t → t.fitsHeader = true) ∧
      isSendable (parametrized (credentials u).1 call) = true ∧
      p = { url := parametrized (credentials u).1 call
            request := {
              method := call.verb, target := (parametrized (credentials u).1 call).target
              authorization := (credentials u).2, token := call.token?, body := call.body? } } := by
  have hall : (call.token?.any fun t => !t.fitsHeader) = false ↔
      ∀ t, call.token? = some t → t.fitsHeader = true := by
    cases call.token? <;> simp
  rw [← hall]
  unfold build
  dsimp only
  split
  · next hhost => exact iff_of_false nofun fun h => by simp [h.1] at hhost
  · next hhost =>
      split
      · next hunfit => exact iff_of_false nofun fun h => by simp [h.2.1] at hunfit
      · next hfits =>
          split
          · next hunsendable => exact iff_of_false nofun fun h => by simp [h.2.2.1] at hunsendable
          · next hsendable =>
              rw [Except.ok.injEq, eq_comm]
              refine ⟨fun h => ⟨?_, ?_, ?_, h⟩, fun h => h.2.2.2⟩
              · simpa using hhost
              · simpa using hfits
              · simpa using hsendable

end Prepared

namespace Client

variable {c : Client}

/-- What is put together for a call has its method and its body. -/
theorem request_of_build (h : Prepared.build call u = .ok p) :
    p.request.method = call.verb ∧ p.request.body = call.body? := by
  obtain ⟨-, -, -, rfl⟩ := Prepared.build_eq_ok_iff.mp h
  exact ⟨rfl, rfl⟩

/-- All that an endpoint changes of the base URL is the path. -/
theorem endpoint_eq (c : Client) (kind : Kind) (segments : List String) :
    ∃ path, c.endpoint kind segments = { c.base with path } := by
  unfold endpoint Url.extend
  split <;> exact ⟨_, rfl⟩

/-- The base URL of a client is the one in its settings, and segments can be
added to it. -/
theorem parse_of_ofSettings {s : Settings} (h : ofSettings s = .ok c) :
    Url.parse (Text.dropTrailingSlashes s.url) = .ok c.base ∧ c.base.carriesPath = true := by
  unfold ofSettings at h
  cases hparse : Url.parse (Text.dropTrailingSlashes s.url) with
  | error fault => simp [hparse] at h
  | ok base =>
      by_cases hbase : base.carriesPath = true
      · simp only [hparse, hbase, if_true, Except.ok.injEq] at h
        obtain rfl := h
        exact ⟨rfl, hbase⟩
      · simp [hparse, hbase] at h

end Client

end AlertDesk
