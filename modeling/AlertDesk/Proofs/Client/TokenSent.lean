import AlertDesk.Proofs.Client.RecordTarget
import AlertDesk.Proofs.Url.Host

/-!
# AlertDesk.Proofs.Client.TokenSent

Which tokens can be sent.  The settings take every token that is not blank; a
header field takes every token without control characters, the tab apart.

A change (`Call.Changes`) is a call that carries the token: an upsert, or a
delete of a record that is named.  It is sent if its token fits into a header
field and its URL into a request (`Client.Reaches`).

Main facts:

* `findToken_of_resolve` — the token of the settings is the one that was given;
* `token_sent` — a change is sent with its token if and only if the token has no
  control character but the tab and the URL can be sent.
-/

namespace AlertDesk

/-! ## tokens -/

/-- No control characters, the tab apart. -/
def CsrfToken.Printable (t : CsrfToken) : Prop :=
  ∀ x ∈ t.text.toList, x = '\t' ∨ (0x20 ≤ x.toNat ∧ x.toNat ≠ 0x7F)

theorem CsrfToken.fitsHeader_iff {t : CsrfToken} : t.fitsHeader = true ↔ t.Printable := by
  simp [fitsHeader, Printable]

instance (t : CsrfToken) : Decidable t.Printable :=
  decidable_of_iff (t.fitsHeader = true) CsrfToken.fitsHeader_iff

/-- The token of the settings is the one that was given. -/
theorem Settings.findToken_of_resolve {env : String → Option String} {raw : Raw} {s : Settings}
    (h : resolve env raw = .ok s) : raw.findToken env = .ok s.token.text := by
  unfold resolve at h
  simp only [check_eq_ok_iff, bind_eq_ok_iff] at h
  obtain ⟨token, htoken, -, h⟩ := h
  obtain rfl := Except.ok.inj h
  exact htoken

/-! ## requests -/

/-- The calls that change a record, and the segments below the collection that
they go to. -/
inductive Call.Changes (token : CsrfToken) : Call → List String → Prop where
  | upsert (kind : Kind) (body : Json) : Changes token (.upsert kind body token) []
  | delete (kind : Kind) (id : String) (hid : id ≠ "" ∧ id ≠ "." ∧ id ≠ "..") :
      Changes token (.delete kind id token) [id]

variable {call : Call} {token : CsrfToken} {segments : List String} {kind : Kind}

theorem Call.Changes.token? (h : call.Changes token segments) : call.token? = some token := by
  cases h <;> rfl

namespace Client

open Prepared

variable {c : Client} {env : String → Option String} {raw : Settings.Raw} {s : Settings}

/-! ## where a change goes -/

/-- The URL of a change can be sent: its host has no character that a request
line cannot have, and what is sent of it is not too long. -/
def Reaches (c : Client) (kind : Kind) (segments : List String) : Prop :=
  (∀ x ∈ (c.base.host.getD "").toList, x ∉ ['"', '\x60', '\x7b', '\x7d']) ∧
    (credentials (c.endpoint kind segments)).1.text.length ≤ longest

theorem isSendable_iff (hweb : c.base.isWeb = true) :
    isSendable (credentials (c.endpoint kind segments)).1 = true ↔ c.Reaches kind segments := by
  obtain ⟨path, hendpoint⟩ := c.endpoint_eq kind segments
  have hkept : (credentials (c.endpoint kind segments)).1.isWeb = c.base.isWeb ∧
      (credentials (c.endpoint kind segments)).1.host = c.base.host := by
    obtain hurl | hurl := credentials_url (c.endpoint kind segments) <;> rw [hurl, hendpoint] <;>
      exact ⟨rfl, rfl⟩
  simp [isSendable, hkept, hweb, Reaches, and_comm]

/-- A client for a web server has a host to talk to. -/
theorem hasHost_of_ofSettings (h : ofSettings s = .ok c) (hweb : c.base.isWeb = true) :
    c.base.hasHost = true := Url.hasHost_of_parse (parse_of_ofSettings h).1 hweb

theorem hasHost_endpoint (hhost : c.base.hasHost = true) :
    (c.endpoint kind segments).hasHost = true := by
  obtain ⟨path, hendpoint⟩ := c.endpoint_eq kind segments
  rwa [hendpoint]

/-! ## what a change sends -/

/-- The call sends one request of its own, with the token in its header. -/
def SendsWith (c : Client) (call : Call) (token : CsrfToken) : Prop :=
  ∃ r, c.Sends call r ∧ r.method = call.verb ∧ r.token = some token

theorem url_of_changes (h : call.Changes token segments) :
    c.url call = .ok (c.endpoint call.kind segments) := by
  cases h with
  | upsert => rfl
  | delete kind id hid => simp [url, recordUrl, hid, Call.kind]

/-- A change adds no parameters. -/
theorem parametrized_of_changes (h : call.Changes token segments) (u : Url) :
    parametrized u call = u := by
  cases h <;> rfl

theorem sendsWith_iff (hhost : c.base.hasHost = true) (hweb : c.base.isWeb = true)
    (h : call.Changes token segments) :
    c.SendsWith call token ↔ token.Printable ∧ c.Reaches call.kind segments := by
  rw [← CsrfToken.fitsHeader_iff, ← isSendable_iff hweb]
  constructor
  · rintro ⟨r, hsends, -⟩
    obtain ⟨url, p, hurl, hbuild, -⟩ := sends_iff.mp hsends
    obtain rfl := Except.ok.inj ((url_of_changes h).symm.trans hurl)
    obtain ⟨-, hfits, hsendable, -⟩ := build_eq_ok_iff.mp hbuild
    rw [parametrized_of_changes h] at hsendable
    exact ⟨hfits token h.token?, hsendable⟩
  · rintro ⟨hfits, hsendable⟩
    have hall : ∀ t, call.token? = some t → t.fitsHeader = true := by
      intro t ht
      obtain rfl := Option.some.inj (h.token?.symm.trans ht)
      exact hfits
    rw [← parametrized_of_changes h (credentials _).1] at hsendable
    exact ⟨_, sends_iff.mpr ⟨_, _, url_of_changes h,
      build_eq_ok_iff.mpr ⟨hasHost_endpoint hhost, hall, hsendable, rfl⟩, rfl⟩, rfl, h.token?⟩

/-- A change whose token does not fit into a header field fails, and nothing is sent. -/
theorem perform_of_unprintable (hhost : c.base.hasHost = true)
    (h : call.Changes token segments) (hbad : ¬ token.Printable) (script : Script) (j : Journal) :
    c.perform script call j =
      (call.failed (.network builderError),
        j.count (.request call.kind call.method .failure)) := by
  have hbuild : build call (c.endpoint call.kind segments) = .error builderError := by
    rw [← CsrfToken.fitsHeader_iff] at hbad
    simp [build, hasHost_endpoint hhost, h.token?, hbad]
  simp only [perform, url_of_changes h, hbuild]

/-- **Which tokens are sent.**  The settings hold the token that was given, and
it is not blank.  On a client for a web server, an upsert or a delete of a named
record sends one request of its own, with that token in its header, if and only if
the token has no control character but the tab and the URL can be sent.  With any other
token every change fails in the same way, and none is ever sent. -/
theorem token_sent (hresolve : Settings.resolve env raw = .ok s) (hclient : ofSettings s = .ok c)
    (hweb : c.base.isWeb = true) :
    raw.findToken env = .ok s.token.text ∧ Text.allBlank s.token.text = false ∧
      ∀ call segments, call.Changes s.token segments →
        (c.SendsWith call s.token ↔ s.token.Printable ∧ c.Reaches call.kind segments) ∧
        (¬ s.token.Printable → ∀ script j, c.perform script call j =
          (call.failed (.network builderError),
            j.count (.request call.kind call.method .failure))) := by
  have hhost := hasHost_of_ofSettings hclient hweb
  refine ⟨Settings.findToken_of_resolve hresolve, Settings.not_allBlank_of_resolve hresolve, ?_⟩
  intro call segments hchanges
  exact ⟨sendsWith_iff hhost hweb hchanges, perform_of_unprintable hhost hchanges⟩

/-- A token from the environment, with a tab and a letter beyond ASCII, is sent
when a record is deleted. -/
theorem token_sent_tab :
    let s : Settings := { url := "http://portal/desk", token := ⟨"tok\té"⟩ }
    Settings.resolve (fun name => if name = "TOKEN" then some "tok\té" else none)
        { url := "http://portal/desk/", tokenFrom := some "TOKEN" } = .ok s ∧
      ofSettings s = .ok desk ∧ desk.base.isWeb = true ∧
      desk.SendsWith (.delete .alert "a/b" s.token) s.token := by
  intro s
  have hresolve : Settings.resolve (fun name => if name = "TOKEN" then some "tok\té" else none)
      { url := "http://portal/desk/", tokenFrom := some "TOKEN" } = .ok s :=
    eq_ok_of_toOption (by decide +kernel)
  have hclient : ofSettings s = .ok desk := ofSettings_of_base (by decide +kernel)
  obtain ⟨-, -, hsent⟩ := token_sent hresolve hclient rfl
  obtain ⟨hiff, -⟩ := hsent _ _ (.delete .alert "a/b" (by decide))
  have hreaches : desk.Reaches .alert ["a/b"] := (isSendable_iff rfl).mp (by decide +kernel)
  exact ⟨hresolve, hclient, rfl, hiff.mpr ⟨by decide, hreaches⟩⟩

/-- A token with a line break is taken for the settings, and an upsert with it
sends nothing: it fails as if the network had. -/
theorem token_not_sent :
    let s : Settings := { url := "http://portal/desk", token := ⟨"a\nb"⟩ }
    let call : Call := .upsert .alert (.obj [("id", .str "a1")]) s.token
    let raw : Settings.Raw := { url := "http://portal/desk/", token := some "a\nb" }
    Settings.resolve (fun _ => none) raw = .ok s ∧
      ofSettings s = .ok desk ∧ desk.base.isWeb = true ∧ ¬ desk.SendsWith call s.token ∧
      desk.answer (Script.ofList [.reply ⟨204, by decide⟩ [] true]) call {} =
        (.error (.network "builder error"),
          { events := [.request .alert .upsert .failure, .timed .alert .upsert] }) := by
  intro s call raw
  have hchanges : call.Changes s.token [] := .upsert _ _
  have hbad : ¬ s.token.Printable := by decide
  refine ⟨eq_ok_of_toOption (by decide +kernel), ofSettings_of_base (by decide +kernel), rfl,
    fun h => ?_, ?_⟩
  · exact hbad ((sendsWith_iff rfl rfl hchanges).mp h).1
  · rw [answer, perform_of_unprintable rfl hchanges hbad]
    rfl

end Client

end AlertDesk
