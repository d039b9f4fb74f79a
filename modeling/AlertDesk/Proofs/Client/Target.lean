import AlertDesk.Proofs.Client.Answer
import AlertDesk.Proofs.Text.Utf8
import AlertDesk.Proofs.Url.Segments

/-!
# AlertDesk.Proofs.Client.Target

Where the requests of a client go.

A call `Targets` a path if its URL is there, at scheme, host and port of the base
URL, and so is every request that is put together for it.  The path begins with
that of the base URL, without the slash at its end (`Client.front`).

Main facts:

* `targets_of_url` — a call targets the path of its endpoint;
* `answer_ne_invalidTarget` — only a record that cannot be named is an invalid target;
* `request_paths` — the paths of the four operations.
-/

namespace AlertDesk

open Url Text

/-! ## path and query of a request -/

namespace Request

/-- The path that a request names. -/
def path (r : Request) : List Char := (cutAt '?' r.target.toList).1

/-- The query string that a request names. -/
def query? (r : Request) : Option (List Char) := (cutAt '?' r.target.toList).2

end Request

/-- The URL has scheme, host and port of the base, and the path. -/
structure Url.At (u base : Url) (path : List Char) : Prop where
  scheme : u.scheme = base.scheme
  host : u.host = base.host
  port : u.port = base.port
  path : u.pathText = path

namespace Prepared

variable {call : Call} {u : Url} {p : Prepared}

/-- Parameters change the query and nothing else. -/
theorem parametrized_eq (u : Url) (call : Call) :
    parametrized u call = { u with query := (parametrized u call).query } := by
  cases call <;> rfl

/-- A request is sent where its URL is, apart from user, password and query. -/
theorem url_of_build (h : build call u = .ok p) :
    p.url.At u u.pathText ∧ p.request.target = p.url.target := by
  obtain ⟨-, -, -, rfl⟩ := build_eq_ok_iff.mp h
  refine ⟨?_, rfl⟩
  dsimp only
  rw [parametrized_eq]
  obtain hurl | hurl := credentials_url u <;> rw [hurl] <;> exact ⟨rfl, rfl, rfl, rfl⟩

end Prepared

/-- A target is a path and the query behind it, if there is no question mark in the path. -/
theorem Request.cut_target {r : Request} {u : Url} (h : r.target = u.target)
    (hmark : '?' ∉ u.pathText) :
    r.path = u.pathText ∧ r.query? = u.query.map String.toList := by
  rw [path, query?, h, Url.target, String.toList_ofList, cutAt_marked hmark]
  exact ⟨rfl, rfl⟩

namespace Client

variable {c : Client} {s : Settings} {call : Call} {kind : Kind} {id : String} {path : List Char}

/-- A call goes to a path: its URL is there, and so is every request that is put
together for it. -/
structure Targets (c : Client) (call : Call) (path : List Char) : Prop where
  url : ∃ u, c.url call = .ok u ∧ u.At c.base path
  prepared : ∀ u p, c.url call = .ok u → Prepared.build call u = .ok p →
    p.url.At c.base path ∧ p.request.path = path

/-- **A call targets the path of its URL.** -/
theorem targets_of_url {u : Url} (hurl : c.url call = .ok u) (hat : u.At c.base path)
    (hmark : '?' ∉ path) : c.Targets call path where
  url := ⟨u, hurl, hat⟩
  prepared := by
    intro u' p hurl' hbuild
    obtain rfl := Except.ok.inj (hurl.symm.trans hurl')
    obtain ⟨hsame, htarget⟩ := Prepared.url_of_build hbuild
    have hpath : p.url.pathText = path := hsame.path.trans hat.path
    refine ⟨⟨hsame.scheme.trans hat.scheme, hsame.host.trans hat.host,
      hsame.port.trans hat.port, hpath⟩, ?_⟩
    rw [(Request.cut_target htarget (hpath ▸ hmark)).1, hpath]

/-! ## the path in front -/

/-- The path of the base URL, without the slash at its end. -/
def front (c : Client) : List Char := Path.stem c.base.pathText

theorem front_desk : desk.front = "/desk".toList := by decide

/-- What a client's base URL is made of. -/
theorem segments_of_ofSettings (h : ofSettings s = .ok c) :
    ∃ path, c.base.path = .segments path ∧ ∀ s ∈ path, Path.Undivided s := by
  obtain ⟨hparse, hcarries⟩ := parse_of_ofSettings h
  cases hbase : c.base.path with
  | bare text => simp [carriesPath, hbase] at hcarries
  | segments path => exact ⟨path, rfl, segments_of_parse hparse hbase⟩

theorem mark_not_mem_front (h : ofSettings s = .ok c) : '?' ∉ c.front := by
  obtain ⟨path, hbase, hundivided⟩ := segments_of_ofSettings h
  rw [front, pathText, hbase]
  exact fun hmem => Path.not_mem_text hundivided (Path.stem_subset _ hmem)

/-- **What requests have in front of all else is the path of the base URL without the
slash at its end**, if there are no empty segments but the last. -/
theorem text_trunk (h : ofSettings s = .ok c)
    (hinner : ∀ path, c.base.path = .segments path → "" ∉ path.dropLast) :
    Path.text c.trunk = c.front := by
  obtain ⟨path, hbase, hundivided⟩ := segments_of_ofSettings h
  rw [front, pathText, trunk, hbase]
  exact Path.text_trunk hundivided (hinner path hbase)

/-! ## below it -/

theorem path_collection (h : ofSettings s = .ok c) (kind : Kind) :
    (c.endpoint kind []).path = .segments (c.trunk ++ ["v1", kind.collection]) := by
  obtain ⟨path, hbase, -⟩ := segments_of_ofSettings h
  have hversion : Path.trunk path ++ ["v1"] ≠ [""] := concat_ne (by decide)
  simp only [endpoint, extend, hbase, List.foldl_cons, List.foldl_nil, trunk]
  rw [Path.push_dropEmptyEnd (by decide), push_version (Path.trunk_ne path),
    push_collection hversion]
  simp

theorem path_query (h : ofSettings s = .ok c) (kind : Kind) :
    (c.endpoint kind ["query"]).path = .segments (c.trunk ++ ["v1", kind.collection, "query"]) := by
  rw [path_endpoint (carriesPath_of_ofSettings h) (by decide), if_neg (by decide)]
  cases c.base.isSpecial <;> rfl

/-- Nothing but two dots leads away from the collection. -/
theorem path_record (h : ofSettings s = .ok c) (hweb : c.base.isWeb = true)
    (hid : id ≠ "." ∧ id ≠ "..") (hback : Path.residue id ≠ ['.', '.']) :
    (c.endpoint kind [id]).path =
      .segments (c.trunk ++ ["v1", kind.collection, Path.segmentOf true id]) := by
  rw [path_endpoint (carriesPath_of_ofSettings h) hid, if_neg hback, isSpecial_of_isWeb hweb]

/-- A call whose URL adds some segments targets their text behind that of the base URL. -/
theorem targets_endpoint {segments rest : List String} (h : ofSettings s = .ok c)
    (hinner : ∀ path, c.base.path = .segments path → "" ∉ path.dropLast)
    (hurl : c.url call = .ok (c.endpoint kind segments))
    (hpath : (c.endpoint kind segments).path = .segments (c.trunk ++ rest)) {text : String}
    (htext : Path.text rest = text.toList) (hmark : '?' ∉ text.toList) :
    c.Targets call (c.front ++ text.toList) := by
  have hat : (c.endpoint kind segments).At c.base (c.front ++ text.toList) := by
    have hwhole : (c.endpoint kind segments).pathText = c.front ++ text.toList := by
      rw [pathText, hpath]
      exact (Path.text_append _ _).trans (by rw [text_trunk h hinner, htext])
    obtain ⟨path, hendpoint⟩ := c.endpoint_eq kind segments
    rw [hendpoint] at hwhole ⊢
    exact ⟨rfl, rfl, rfl, hwhole⟩
  refine targets_of_url hurl hat fun hmem => ?_
  obtain hfront | htext := List.mem_append.mp hmem
  · exact mark_not_mem_front h hfront
  · exact hmark htext

/-- **Only a record that cannot be named is an invalid target.** -/
theorem answer_ne_invalidTarget {u : Url} (hurl : c.url call = .ok u) (script : Script)
    (j : Journal) (reason : String) :
    (c.answer script call j).1 ≠ call.failed (.invalidTarget reason) := by
  intro hfailed
  obtain ⟨_, _, _, -, heq⟩ | ⟨-, network, heq⟩ := answer_of_url hurl script j
  · exact Call.not_unanswered (heq.symm.trans hfailed) trivial
  · have hreason := Call.failed_inj.mp (heq.symm.trans hfailed)
    contradiction

/-! ## slashes at the end of the base URL -/

theorem dropTrailingSlashes_append (text : String) (n : Nat) :
    dropTrailingSlashes (text ++ String.ofList (List.replicate n '/')) =
      dropTrailingSlashes text := by
  rw [dropTrailingSlashes, dropTrailingSlashes, String.toList_append, String.toList_ofList,
    List.reverse_append, List.reverse_replicate, List.dropWhile_append_of_pos]
  intro c hc
  simpa using List.eq_of_mem_replicate hc

/-- Slashes at the end of a base URL make no difference. -/
theorem ofSettings_slashes (h : ofSettings s = .ok c) (n : Nat) :
    ofSettings { s with url := s.url ++ String.ofList (List.replicate n '/') } = .ok c := by
  obtain ⟨hparse, hcarries⟩ := parse_of_ofSettings h
  simp [ofSettings, dropTrailingSlashes_append, hparse, hcarries]

/-- **Where the requests of a client go.**  The base URL is one of the web, with no
empty segment in its path but perhaps the last; slashes at its end make no
difference.  A query goes to `/v1/`, the collection and `/query` behind the path of
the base URL without its final slash, an upsert to the collection there, and neither
is ever an invalid target.  A fetch or a delete goes to the collection and one
segment, without slashes, backslashes and marks, that reads back as the identifier
without tabs and line breaks, unless these leave nothing, one dot or two dots. -/
theorem request_paths (h : ofSettings s = .ok c) (hweb : c.base.isWeb = true)
    (hinner : ∀ path, c.base.path = .segments path → "" ∉ path.dropLast) :
    (∀ n, ofSettings { s with url := s.url ++ String.ofList (List.replicate n '/') } = .ok c) ∧
    ∀ kind : Kind,
      (∀ q, c.Targets (.query kind q)
          (c.front ++ ("/v1/" ++ kind.collection ++ "/query").toList) ∧
        ∀ script j reason,
          (c.answer script (.query kind q) j).1 ≠ .error (.invalidTarget reason)) ∧
      (∀ body token, c.Targets (.upsert kind body token)
          (c.front ++ ("/v1/" ++ kind.collection).toList) ∧
        ∀ script j reason,
          (c.answer script (.upsert kind body token) j).1 ≠ .error (.invalidTarget reason)) ∧
      ∀ call id, call.record? = some (kind, id) → Path.kept id ∉ [[], ['.'], ['.', '.']] →
        ∃ e : String,
          c.Targets call (c.front ++ ("/v1/" ++ kind.collection ++ "/" ++ e).toList) ∧
          (∀ x ∈ e.toList, x ∉ ['/', '?', '#', '\\']) ∧
          Utf8.decode? (Percent.decodeChars e.toList) = some (Path.kept id) := by
  refine ⟨ofSettings_slashes h, fun kind => ⟨fun q => ⟨?_, ?_⟩, fun body token => ⟨?_, ?_⟩, ?_⟩⟩
  · refine targets_endpoint h hinner rfl (path_query h kind) (by simp [Path.text]) ?_
    cases kind <;> decide
  · exact answer_ne_invalidTarget rfl
  · refine targets_endpoint h hinner rfl (path_collection h kind) (by simp [Path.text]) ?_
    cases kind <;> decide
  · exact answer_ne_invalidTarget rfl
  · intro call id hcall hkept
    simp only [List.mem_cons, List.not_mem_nil, or_false, not_or] at hkept
    obtain ⟨hempty, hdot, hback⟩ := hkept
    have hid : id ≠ "" ∧ id ≠ "." ∧ id ≠ ".." := by
      refine ⟨?_, ?_, ?_⟩ <;> rintro rfl
      · exact hempty rfl
      · exact hdot rfl
      · exact hback rfl
    have hresidue : Path.residue id = Path.kept id := if_neg hdot
    have hsegment : Path.IsSegment (Path.segmentOf true id) :=
      Path.segmentOf_isSegment (hresidue ▸ hempty) (hresidue ▸ hback)
    have hurl : c.url call = .ok (c.endpoint kind [id]) := by
      simp [url_of_record hcall, recordUrl, hid]
    refine ⟨Path.segmentOf true id, ?_, fun x hx => ?_, ?_⟩
    · refine targets_endpoint h hinner hurl (path_record h hweb hid.2 (hresidue ▸ hback))
        (by simp [Path.text]) fun hmem => ?_
      rw [String.toList_append] at hmem
      obtain hmem | hmem := List.mem_append.mp hmem
      · revert hmem
        cases kind <;> decide
      · exact (hsegment.undivided _ hmem).2.2.1 rfl
    · obtain ⟨hslash, hbackslash, hquery, hfragment⟩ := hsegment.undivided x hx
      simp [hslash, hbackslash, hquery, hfragment]
    · rw [Path.decodeChars_segmentOf, hresidue, Utf8.decode?_eq_some_iff]

/-- Below a path of its own, a slash and a percent sign in an identifier stay in it,
and a line break goes. -/
theorem request_paths_desk :
    ofSettings { url := "http://portal/desk/", token := ⟨"t"⟩ } = .ok desk ∧
      desk.base.isWeb = true ∧ (∀ path, desk.base.path = .segments path → "" ∉ path.dropLast) ∧
      desk.Targets (.query .report {}) "/desk/v1/reports/query".toList ∧
      ∃ e : String, desk.Targets (.get .alert "a/%2\nF") ("/desk/v1/alerts/" ++ e).toList ∧
        Utf8.decode? (Percent.decodeChars e.toList) = some "a/%2F".toList := by
  have hinner : ∀ path, desk.base.path = .segments path → "" ∉ path.dropLast := by
    intro path hpath
    obtain rfl := UrlPath.segments.inj hpath
    decide
  obtain ⟨-, hpaths⟩ := request_paths ofSettings_desk rfl hinner
  obtain ⟨e, htargets, -, hdecode⟩ := (hpaths .alert).2.2 (.get .alert "a/%2\nF") _ rfl (by decide)
  refine ⟨ofSettings_desk, rfl, hinner, ((hpaths .report).1 {}).1, e, ?_, ?_⟩
  · simpa [front_desk, Kind.collection] using htargets
  · have hkept : Path.kept "a/%2\nF" = "a/%2F".toList := by decide
    rw [hdecode, hkept]

end Client

end AlertDesk
