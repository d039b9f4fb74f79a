import AlertDesk.Proofs.Client.Target
import AlertDesk.Proofs.Paging.Parameters
import AlertDesk.Proofs.Url.Form

/-!
# AlertDesk.Proofs.Client.Parameters

The parameters of a list query on their way to the server.  The path of the request
has no question mark, so its query string begins at the first one; and what is
written there in the form encoding is read back.

Main facts:

* `canSend_query_iff` — when a query is sent;
* `query?_of_sends` — the query string of a query;
* `parameters_arrive` — what a server makes of it.
-/

namespace AlertDesk.Client

open Url Prepared

variable {c : Client} {s : Settings} {kind : Kind} {q : ListQuery} {r : Request}

/-! ## the request -/

/-- The URL of a query's request. -/
def queryUrl (c : Client) (kind : Kind) (q : ListQuery) : Url :=
  (credentials (c.endpoint kind ["query"])).1.withParameters q.pairs

/-- Scheme, host and path are those of the endpoint, whoever asks for what. -/
theorem queryUrl_at (c : Client) (kind : Kind) (q : ListQuery) :
    (c.queryUrl kind q).At c.base (c.endpoint kind ["query"]).pathText := by
  obtain ⟨path, hendpoint⟩ := c.endpoint_eq kind ["query"]
  rw [queryUrl]
  obtain hurl | hurl := credentials_url (c.endpoint kind ["query"]) <;> rw [hurl, hendpoint] <;>
    exact ⟨rfl, rfl, rfl, rfl⟩

/-- **A query is sent** if it goes to a web server under a host and a URL that a
request can have. -/
theorem canSend_query_iff (h : ofSettings s = .ok c) (hweb : c.base.isWeb = true) :
    c.CanSend (.query kind q) ↔
      (∀ x ∈ (c.base.host.getD "").toList, x ∉ ['"', '\x60', '\x7b', '\x7d']) ∧
        (c.queryUrl kind q).text.length ≤ longest := by
  have hat := c.queryUrl_at kind q
  have hsendable : isSendable (c.queryUrl kind q) = true ↔
      (∀ x ∈ (c.base.host.getD "").toList, x ∉ ['"', '\x60', '\x7b', '\x7d']) ∧
        (c.queryUrl kind q).text.length ≤ longest := by
    have hkept : (c.queryUrl kind q).isWeb = true := by rwa [isWeb, hat.scheme]
    simp [isSendable, hkept, hat.host, and_comm]
  rw [← hsendable]
  constructor
  · rintro ⟨r, sent⟩
    obtain ⟨u, p, hurl, hbuild, -⟩ := sends_iff.mp sent
    obtain rfl := Except.ok.inj hurl
    exact (build_eq_ok_iff.mp hbuild).2.2.1
  · intro hsend
    have hhost : (c.endpoint kind ["query"]).hasHost = true :=
      hasHost_endpoint (hasHost_of_ofSettings h hweb)
    have htoken : ∀ t, (Call.query kind q).token? = some t → t.fitsHeader = true := by
      simp [Call.token?]
    exact ⟨_, sends_iff.mpr ⟨_, _, rfl, build_eq_ok_iff.mpr ⟨hhost, htoken, hsend, rfl⟩, rfl⟩⟩

/-- There is no question mark in the path of a query's request. -/
theorem mark_not_mem_path (h : ofSettings s = .ok c) (kind : Kind) :
    '?' ∉ (c.endpoint kind ["query"]).pathText := by
  obtain ⟨path, hbase, hundivided⟩ := segments_of_ofSettings h
  have hfixed : ∀ s ∈ ["v1", kind.collection, "query"], Path.Undivided s := by
    cases kind <;> simp [Path.Undivided, Kind.collection]
  rw [pathText, path_query h]
  refine Path.not_mem_text fun s hs => ?_
  rw [trunk, hbase] at hs
  obtain hs | hs := List.mem_append.mp hs
  · exact hundivided s (Path.trunk_subset path hs)
  · exact hfixed s hs

/-- What parameters make of a URL without a query. -/
theorem query_withParameters {u : Url} (hquery : u.query = none) (pairs : List (String × String)) :
    (u.withParameters pairs).query =
      if pairs = [] then none else some (String.ofList (Form.write pairs)) := by
  simp [withParameters, hquery, Form.write_eq_nil_iff]

/-- **The query string of a request for a query.** -/
theorem query?_of_sends (h : ofSettings s = .ok c) (hquery : c.base.query = none)
    (sent : c.Sends (.query kind q) r) :
    r.query? = if q = {} then none else some (Form.write q.pairs) := by
  obtain ⟨u, p, hurl, hbuild, rfl⟩ := sends_iff.mp sent
  obtain rfl := Except.ok.inj hurl
  have htarget : p.request.target = (c.queryUrl kind q).target := by
    obtain ⟨-, -, -, hp⟩ := build_eq_ok_iff.mp hbuild
    rw [hp]
    rfl
  have hmark : '?' ∉ (c.queryUrl kind q).pathText := by
    rw [(c.queryUrl_at kind q).path]
    exact mark_not_mem_path h kind
  have hplain : (credentials (c.endpoint kind ["query"])).1.query = none := by
    obtain ⟨path, hendpoint⟩ := c.endpoint_eq kind ["query"]
    obtain hkept | hkept := credentials_url (c.endpoint kind ["query"]) <;>
      rw [hkept, hendpoint] <;> exact hquery
  rw [(Request.cut_target htarget hmark).2, queryUrl, query_withParameters hplain]
  simp only [ListQuery.pairs_eq_nil_iff]
  split
  · rfl
  · rw [Option.map_some, String.toList_ofList]

/-- What is read in the query string of a request for a query is what was asked for. -/
theorem read_query?_of_sends (h : ofSettings s = .ok c) (hquery : c.base.query = none)
    (sent : c.Sends (.query kind q) r) : Form.read (r.query?.getD []) = q.pairs := by
  rw [query?_of_sends h hquery sent]
  split
  · next hq =>
      rw [hq]
      rfl
  · exact Form.read_write q.pairs

/-- **List parameters arrive as they were given.**  The query string of a request for
a query is missing if and only if nothing is set.  It reads back as the three
parameters with names of their own, as far as they are set, and the filters in the
order of their keys.  When the last value of a name counts, it comes to the object
that the query is written as, with numbers as their digits; so queries that are
written as the same object are the same to such a server.  How a query was built
makes no difference, as long as the settings of each member and of each filter came in
the same order.  A query to a web server is sent if its host and its length allow it. -/
theorem parameters_arrive (h : ofSettings s = .ok c) (hquery : c.base.query = none) :
    (∀ kind q r, c.Sends (.query kind q) r →
      (r.query? = none ↔ q = {}) ∧
      Form.read (r.query?.getD []) =
        (q.page.map fun n => ("page", Nat.repr n.toNat)).toList ++
          (q.pageSize.map fun n => ("pageSize", Nat.repr n.toNat)).toList ++
          (q.contains.map fun s => ("contains", s)).toList ++ q.filters.entries ∧
      ∃ members, q.wire = .obj members ∧
        (Dict.ofList (Form.read (r.query?.getD []))).entries =
          members.map (Prod.map id Json.parameterText) ∧
        ∀ p ∈ members, (∃ s, p.2 = .str s) ∨ ∃ n, p.2 = Json.ofUInt64 n) ∧
    (∀ kind q r kind' q' r', c.Sends (.query kind q) r → c.Sends (.query kind' q') r' →
      q.wire = q'.wire → Dict.ofList (Form.read (r.query?.getD [])) =
        Dict.ofList (Form.read (r'.query?.getD []))) ∧
    (c.base.isWeb = true → ∀ kind q, c.CanSend (.query kind q) ↔
      (∀ x ∈ (c.base.host.getD "").toList, x ∉ ['"', '\x60', '\x7b', '\x7d']) ∧
        (c.queryUrl kind q).text.length ≤ longest) ∧
    ∀ (q : ListQuery) (settings settings' : List ListQuery.Setting),
      (∀ slot, settings.filter (·.slot = slot) = settings'.filter (·.slot = slot)) →
      q.build settings = q.build settings' := by
  refine ⟨fun kind q r sent => ⟨?_, read_query?_of_sends h hquery sent, ?_⟩,
    fun kind q r kind' q' r' sent sent' hwire => ?_,
    fun hweb kind q => canSend_query_iff h hweb,
    fun q settings settings' => ListQuery.build_congr q⟩
  · rw [query?_of_sends h hquery sent]
    split <;> simp [*]
  · rw [read_query?_of_sends h hquery sent]
    exact q.exists_wire_eq
  · rw [read_query?_of_sends h hquery sent, read_query?_of_sends h hquery sent']
    exact ListQuery.ofList_pairs_congr hwire

/-- A text with all that divides pairs arrives, beside a filter that is named like the
page; the filter may be set first. -/
theorem parameters_arrive_desk :
    let q := (ListQuery.ofPage 2).build [.search "a&b=c +%", .filter "page" "é"]
    ofSettings { url := "http://portal/desk/", token := ⟨"t"⟩ } = .ok desk ∧
      desk.base.query = none ∧
      (∃ r, desk.Sends (.query .alert q) r ∧ Form.read (r.query?.getD []) =
        [("page", "2"), ("contains", "a&b=c +%"), ("page", "é")]) ∧
      (ListQuery.ofPage 2).build [.filter "page" "é", .search "a&b=c +%"] = q := by
  intro q
  obtain ⟨hread, -, hsend, hbuild⟩ := parameters_arrive ofSettings_desk rfl
  obtain ⟨r, sent⟩ := (hsend rfl .alert q).mpr ⟨by simp [desk], by decide +kernel⟩
  refine ⟨ofSettings_desk, rfl, ⟨r, sent, (hread .alert q r sent).2.1⟩, hbuild _ _ _ fun slot => ?_⟩
  cases slot <;> simp [ListQuery.Setting.slot, List.filter_cons]

end AlertDesk.Client
