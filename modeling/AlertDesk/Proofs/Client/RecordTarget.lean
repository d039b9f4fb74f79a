import AlertDesk.Proofs.Client.Request
import AlertDesk.Proofs.Url.Host
import AlertDesk.Proofs.Url.Path

/-!
# AlertDesk.Proofs.Client.RecordTarget

Where the requests go that fetch or delete one record.

A call sends at most one request of its own, whatever the network does with it
(`Sends`), or is refused before anything is sent (`Refuses`).  The target of a request for
a record is decided by what arrives of the identifier alone (`target_of_sends`):
below the collection, or, if two dots arrive, above it.

Main facts:

* `sends_iff` — a request is sent if there is a URL and the request can be put
  together;
* `refuses_iff_url`, `refuses_iff` — a call is refused if it has no URL, as three
  identifiers have none, and no others;
* `exchanges_answer` — a call leaves at most one exchange, with its own method and body;
* `record_target` — a request goes to the record alone if and only if neither
  nothing nor two dots arrive of its identifier.
-/

namespace AlertDesk

/-- The record that a call fetches or deletes. -/
def Call.record? : Call → Option (Kind × String)
  | .get kind id | .delete kind id _ => some (kind, id)
  | .query .. | .upsert .. => none

namespace Client

open Url Text

variable {c : Client} {call : Call} {kind : Kind} {id : String} {r : Request}

/-! ## what a call sends -/

/-- The call sends the request and no other of its own, whatever comes of it. -/
def Sends (c : Client) (call : Call) (r : Request) : Prop :=
  ∀ script j, (c.perform script call j).2.exchanges =
    j.exchanges ++ [(r, script j.exchanges.length)]

/-- The call sends nothing and fails with an invalid target. -/
def Refuses (c : Client) (call : Call) : Prop :=
  ∃ reason, ∀ script j, c.perform script call j = (call.failed (.invalidTarget reason), j)

/-- A request that can be put together is sent. -/
theorem exchanges_send (script : Script) (call : Call) (p : Prepared) (j : Journal) :
    (send script call p j).2.exchanges =
      j.exchanges ++ [(p.request, script j.exchanges.length)] := by
  cases h : Prepared.settle p.url (script j.exchanges.length) <;> simp [send, h]

/-- **A request is sent if there is a URL and the request can be put together.** -/
theorem sends_iff : c.Sends call r ↔
    ∃ url p, c.url call = .ok url ∧ Prepared.build call url = .ok p ∧ p.request = r := by
  constructor
  · intro h
    have hsent := h .offline {}
    unfold perform at hsent
    cases hurl : c.url call with
    | error e => simp [hurl] at hsent
    | ok url =>
        cases hbuild : Prepared.build call url with
        | error reason => simp [hurl, hbuild] at hsent
        | ok p =>
            simp only [hurl, hbuild, exchanges_send] at hsent
            exact ⟨url, p, rfl, hbuild, by simpa using hsent⟩
  · rintro ⟨url, p, hurl, hbuild, rfl⟩ script j
    simp only [perform, hurl, hbuild, exchanges_send]

/-- A call leaves one exchange more, with its own method and body, or none. -/
theorem exchanges_answer (c : Client) (script : Script) (call : Call) (j : Journal) :
    (c.answer script call j).2.exchanges = j.exchanges ∨
      ∃ x : Request × Outcome, x.1.method = call.verb ∧ x.1.body = call.body? ∧
        (c.answer script call j).2.exchanges = j.exchanges ++ [x] := by
  cases hurl : c.url call with
  | error e => simp [answer, perform, hurl]
  | ok url =>
      cases hbuild : Prepared.build call url with
      | error reason => simp [answer, perform, hurl, hbuild]
      | ok p =>
          obtain ⟨hmethod, hbody⟩ := request_of_build hbuild
          refine .inr ⟨(p.request, script j.exchanges.length), hmethod, hbody, ?_⟩
          simpa [answer, perform, hurl, hbuild] using exchanges_send script call p j

/-- A call that is refused leaves none. -/
theorem sent_of_refuses (h : c.Refuses call) (script : Script) (j : Journal) :
    (c.answer script call j).2.sent = j.sent := by
  obtain ⟨reason, refused⟩ := h
  simp only [answer, refused, Journal.count]

/-- A request for a record goes to the path and the query of its URL, which is one of the web. -/
theorem target_of_build {url : Url} {p : Prepared} (hcall : call.record? = some (kind, id))
    (h : Prepared.build call url = .ok p) : p.request.target = url.target ∧ url.isWeb = true := by
  have hparametrized : ∀ u, Prepared.parametrized u call = u := by
    intro u
    cases call <;> first | rfl | contradiction
  obtain ⟨-, -, hsendable, rfl⟩ := Prepared.build_eq_ok_iff.mp h
  rw [hparametrized] at hsendable ⊢
  have hweb : (Prepared.credentials url).1.isWeb = true := by
    simp only [Prepared.isSendable, Bool.and_eq_true] at hsendable
    exact hsendable.1.1
  obtain hurl | hurl := Prepared.credentials_url url
  · rw [hurl] at hweb ⊢
    exact ⟨rfl, hweb⟩
  · rw [hurl] at hweb ⊢
    exact ⟨rfl, hweb⟩

theorem url_of_record (hcall : call.record? = some (kind, id)) :
    c.url call = c.recordUrl kind id := by
  cases call <;> simp_all [Call.record?, url]

/-- All that can be wrong with the URL of a call is the target. -/
theorem invalidTarget_of_url {e : PortalError} (h : c.url call = .error e) :
    ∃ reason, e = .invalidTarget reason := by
  have hrecord : ∀ {kind id}, c.recordUrl kind id = .error e →
      ∃ reason, e = .invalidTarget reason := by
    intro kind id hurl
    unfold recordUrl at hurl
    split at hurl
    · exact ⟨_, (Except.error.inj hurl).symm⟩
    · contradiction
  cases call with
  | get kind id => exact hrecord h
  | delete kind id token => exact hrecord h
  | query kind q => contradiction
  | upsert kind body token => contradiction

/-- **A call is refused if it has no URL.** -/
theorem refuses_iff_url : c.Refuses call ↔ ∃ e, c.url call = .error e := by
  constructor
  · rintro ⟨reason, h⟩
    cases hurl : c.url call with
    | error e => exact ⟨e, rfl⟩
    | ok url =>
        -- a call that is not refused leaves a request or a failure in the journal
        have hsent : (c.perform .offline call {}).2 = {} := by rw [h]
        simp only [perform, hurl] at hsent
        cases hbuild : Prepared.build call url with
        | error e => simp [hbuild, Journal.count] at hsent
        | ok p =>
            have hexchanges := congrArg Journal.exchanges hsent
            simp [hbuild, exchanges_send] at hexchanges
  · rintro ⟨e, hurl⟩
    obtain ⟨reason, rfl⟩ := invalidTarget_of_url hurl
    exact ⟨reason, fun script j => by simp only [perform, hurl]⟩

/-- **Three identifiers are refused, and no others.** -/
theorem refuses_iff (hcall : call.record? = some (kind, id)) :
    c.Refuses call ↔ id = "" ∨ id = "." ∨ id = ".." := by
  rw [refuses_iff_url, url_of_record hcall, recordUrl]
  split
  · next hid => exact iff_of_true ⟨_, rfl⟩ hid
  · next hid => exact iff_of_false nofun hid

/-- Whoever sends a request was not refused. -/
theorem not_refused (hcall : call.record? = some (kind, id)) (h : c.Sends call r) :
    id ≠ "" ∧ id ≠ "." ∧ id ≠ ".." := by
  obtain ⟨url, p, hurl, -⟩ := sends_iff.mp h
  rw [url_of_record hcall, recordUrl] at hurl
  split at hurl
  · contradiction
  · next hid => simpa [not_or] using hid

/-! ## where it goes -/

/-- The segments of the base URL that a record's path begins with. -/
def trunk (c : Client) : List String :=
  match c.base.path with
  | .segments path => Path.trunk path
  | .bare _ => []

/-- The target with some segments behind those of the base URL. -/
def targetOf (c : Client) (rest : List String) : String :=
  String.ofList (Path.text (c.trunk ++ rest) ++ marked '?' c.base.query)

/-- The segments a record's request goes to. -/
def place (kind : Kind) (id : String) : List String :=
  if Path.residue id = ['.', '.'] then ["v1", ""]
  else ["v1", kind.collection, Path.segmentOf true id]

theorem concat_ne {path : List String} {s : String} (hs : s ≠ "") : path ++ [s] ≠ [""] := by
  intro h
  have hlast := congrArg List.getLast? h
  simp [hs] at hlast

theorem push_version {special : Bool} {path : List String} (hp : path ≠ [""]) :
    Path.push special path "v1" = path ++ ["v1"] := by
  rw [Path.push_eq (by decide) hp]
  cases special <;> rfl

theorem push_collection {special : Bool} {path : List String} (hp : path ≠ [""]) (kind : Kind) :
    Path.push special path kind.collection = path ++ [kind.collection] := by
  rw [Path.push_eq (by cases kind <;> decide) hp]
  cases kind <;> cases special <;> rfl

/-- The path of a record's URL. -/
theorem path_endpoint (hpath : c.base.carriesPath = true) (hid : id ≠ "." ∧ id ≠ "..") :
    (c.endpoint kind [id]).path = .segments (c.trunk ++
      if Path.residue id = ['.', '.'] then ["v1", ""]
      else ["v1", kind.collection, Path.segmentOf c.base.isSpecial id]) := by
  cases hbase : c.base.path with
  | bare text => simp [carriesPath, hbase] at hpath
  | segments path =>
      have hversion : Path.trunk path ++ ["v1"] ≠ [""] := concat_ne (by decide)
      have hcollection : Path.trunk path ++ ["v1"] ++ [kind.collection] ≠ [""] :=
        concat_ne (by cases kind <;> decide)
      simp only [endpoint, extend, hbase, List.foldl_cons, List.foldl_nil, trunk]
      rw [Path.push_dropEmptyEnd (by decide), push_version (Path.trunk_ne path),
        push_collection hversion, Path.push_eq hid hcollection]
      split
      · simp
      · simp

/-- **What arrives of the identifier decides where the request goes.** -/
theorem target_of_sends (hpath : c.base.carriesPath = true)
    (hcall : call.record? = some (kind, id)) (h : c.Sends call r) :
    r.target = c.targetOf (place kind id) := by
  have hid := not_refused hcall h
  obtain ⟨url, p, hurl, hbuild, rfl⟩ := sends_iff.mp h
  obtain ⟨htarget, hweb⟩ := target_of_build hcall hbuild
  obtain rfl : c.endpoint kind [id] = url := by
    simpa [url_of_record hcall, recordUrl, hid] using hurl
  obtain ⟨path, hendpoint⟩ := c.endpoint_eq kind [id]
  have hspecial : c.base.isSpecial = true := isSpecial_of_isWeb (by rwa [hendpoint] at hweb)
  have hquery : (c.endpoint kind [id]).query = c.base.query := by rw [hendpoint]
  rw [htarget, target, pathText, path_endpoint hpath hid.2, hspecial, hquery, targetOf, place]

/-- Targets are the same if the segments spell the same. -/
theorem targetOf_inj {a b : List String} :
    c.targetOf a = c.targetOf b ↔ Path.text a = Path.text b := by
  rw [targetOf, targetOf, String.ofList_inj, List.append_cancel_right_eq, Path.text_append,
    Path.text_append, List.append_cancel_left_eq]

theorem text_record_inj {collection a b : String} :
    Path.text ["v1", collection, a] = Path.text ["v1", collection, b] ↔ a = b := by
  simp [Path.text, String.toList_inj]

/-- Above the collection there is no record of it. -/
theorem text_above_ne (collection segment : String) :
    Path.text ["v1", ""] ≠ Path.text ["v1", collection, segment] := by
  simp [Path.text]

/-- A request goes to a segment below the collection unless two dots arrive. -/
theorem target_place_iff {segment : String} :
    c.targetOf (place kind id) = c.targetOf ["v1", kind.collection, segment] ↔
      Path.residue id ≠ ['.', '.'] ∧ Path.segmentOf true id = segment := by
  rw [targetOf_inj, place]
  split
  · next h => simp [h, text_above_ne]
  · next h => simp [h, text_record_inj]

/-- **Requests go to the same place if the same arrives of their identifiers.** -/
theorem target_place_inj {id' : String} :
    c.targetOf (place kind id) = c.targetOf (place kind id') ↔
      Path.residue id = Path.residue id' := by
  by_cases h' : Path.residue id' = ['.', '.']
  · have hplace : place kind id' = ["v1", ""] := by rw [place, if_pos h']
    rw [targetOf_inj, hplace, place, h']
    split
    · next h => simp [h]
    · next h => simp [h, (text_above_ne _ _).symm]
  · have hplace : place kind id' = ["v1", kind.collection, Path.segmentOf true id'] := by
      rw [place, if_neg h']
    rw [hplace, target_place_iff, Path.segmentOf_inj]
    constructor
    · exact And.right
    · intro h
      exact ⟨h ▸ h', h⟩

/-! ## confined to the record -/

/-- The target is one segment below a kind's records, which reads back as what
arrives of the identifier. -/
def Confined (c : Client) (kind : Kind) (id target : String) : Prop :=
  ∃ segment, target = c.targetOf ["v1", kind.collection, segment] ∧ Path.IsSegment segment ∧
    Percent.decodeChars segment.toList = Utf8.encode (Path.residue id)

theorem confined_iff : c.Confined kind id (c.targetOf (place kind id)) ↔
    Path.residue id ≠ [] ∧ Path.residue id ≠ ['.', '.'] := by
  constructor
  · rintro ⟨segment, htarget, hsegment, -⟩
    obtain ⟨hback, rfl⟩ := target_place_iff.mp htarget
    exact ⟨fun hempty => hsegment.nonempty (Path.segmentOf_eq_empty.mpr hempty), hback⟩
  · rintro ⟨hempty, hback⟩
    exact ⟨Path.segmentOf true id, target_place_iff.mpr ⟨hback, rfl⟩,
      Path.segmentOf_isSegment hempty hback, Path.decodeChars_segmentOf id⟩

theorem carriesPath_of_ofSettings {s : Settings} (h : ofSettings s = .ok c) :
    c.base.carriesPath = true := (parse_of_ofSettings h).2

/-- A client is known by the base URL it was made with. -/
theorem ofSettings_of_base {s : Settings} {base : Url}
    (h : (ofSettings s).toOption.map Client.base = some base) : ofSettings s = .ok ⟨base⟩ := by
  cases hs : ofSettings s with
  | error e => simp [hs, Except.toOption] at h
  | ok c =>
      have hbase : c.base = base := by simpa [hs, Except.toOption] using h
      rw [← hbase]

/-- A portal below a path of its own. -/
def desk : Client where
  base := { scheme := "http", host := some "portal", path := .segments ["desk"] }

theorem ofSettings_desk : ofSettings { url := "http://portal/desk/", token := ⟨"t"⟩ } = .ok desk :=
  ofSettings_of_base (by decide +kernel)

/-- **Where the requests for records go.**  Refused are the empty identifier and
one or two dots, as they are written.  Every other request goes to its record
alone if and only if something other than two dots arrives of its identifier;
otherwise it goes to the collection, or above it.  Two requests share a target
if and only if the same arrives of their identifiers. -/
theorem record_target {s : Settings} (h : ofSettings s = .ok c) (kind : Kind) :
    (∀ call id, call.record? = some (kind, id) →
      (c.Refuses call ↔ id = "" ∨ id = "." ∨ id = "..")) ∧
    (∀ call id r, call.record? = some (kind, id) → c.Sends call r →
      (c.Confined kind id r.target ↔
        Path.residue id ≠ [] ∧ Path.residue id ≠ ['.', '.']) ∧
      (Path.residue id = [] → r.target = c.targetOf ["v1", kind.collection, ""]) ∧
      (Path.residue id = ['.', '.'] → r.target = c.targetOf ["v1", ""])) ∧
    ∀ call id r call' id' r', call.record? = some (kind, id) → c.Sends call r →
      call'.record? = some (kind, id') → c.Sends call' r' →
      (r.target = r'.target ↔ Path.residue id = Path.residue id') := by
  have hpath := carriesPath_of_ofSettings h
  refine ⟨fun call id => refuses_iff, ?_, ?_⟩
  · intro call id r hcall hsends
    rw [target_of_sends hpath hcall hsends]
    refine ⟨confined_iff, fun hempty => ?_, fun hback => by rw [place, if_pos hback]⟩
    rw [target_place_iff, hempty]
    exact ⟨by simp, Path.segmentOf_eq_empty.mpr hempty⟩
  · intro call id r call' id' r' hcall hsends hcall' hsends'
    rw [target_of_sends hpath hcall hsends, target_of_sends hpath hcall' hsends']
    exact target_place_inj

/-- A slash in an identifier stays in it. -/
theorem record_target_slash :
    let r : Request := { method := "GET", target := "/desk/v1/alerts/a%2Fb" }
    ofSettings { url := "http://portal/desk/", token := ⟨"t"⟩ } = .ok desk ∧
      desk.Sends (.get .alert "a/b") r ∧ ¬ desk.Refuses (.get .alert "a/b") ∧
      desk.Confined .alert "a/b" r.target := by
  intro r
  have hsends : desk.Sends (.get .alert "a/b") r := sends_iff.mpr ⟨_, _, rfl, rfl, rfl⟩
  obtain ⟨hrefuses, hconfined, -⟩ := record_target ofSettings_desk .alert
  have hrefused : ¬ desk.Refuses (.get .alert "a/b") :=
    mt (hrefuses (.get .alert "a/b") "a/b" rfl).mp (by decide)
  exact ⟨ofSettings_desk, hsends, hrefused,
    (hconfined (.get .alert "a/b") "a/b" r rfl hsends).1.mpr (by decide)⟩

/-- Two dots around a line break are not refused, and the request goes above the
collection; a tab between two letters makes no difference to where it goes. -/
theorem record_target_above :
    let above : Request := { method := "GET", target := "/desk/v1/" }
    let other : Request := { method := "GET", target := "/desk/v1/alerts/ab" }
    ofSettings { url := "http://portal/desk/", token := ⟨"t"⟩ } = .ok desk ∧
      ¬ desk.Refuses (.get .alert ".\n.") ∧ desk.Sends (.get .alert ".\n.") above ∧
      ¬ desk.Confined .alert ".\n." above.target ∧
      desk.Sends (.get .alert "a\tb") other ∧ desk.Sends (.get .alert "ab") other := by
  intro above other
  have hsends : desk.Sends (.get .alert ".\n.") above := sends_iff.mpr ⟨_, _, rfl, rfl, rfl⟩
  have htarget : above.target = desk.targetOf (place .alert ".\n.") :=
    target_of_sends rfl rfl hsends
  refine ⟨ofSettings_desk, ?_, hsends, ?_, sends_iff.mpr ⟨_, _, rfl, rfl, rfl⟩,
    sends_iff.mpr ⟨_, _, rfl, rfl, rfl⟩⟩
  · rw [refuses_iff rfl]
    decide
  · rw [htarget, confined_iff]
    decide

/-- Requests for records whose identifiers have no tabs and no line breaks are
confined to them, and go to different places if the identifiers are different. -/
theorem plain_records_apart {s : Settings} (h : ofSettings s = .ok c) {call' : Call}
    {id' : String} {r' : Request} (hcall : call.record? = some (kind, id)) (hr : c.Sends call r)
    (hplain : ∀ x ∈ id.toList, Path.isDropped x = false)
    (hcall' : call'.record? = some (kind, id')) (hr' : c.Sends call' r')
    (hplain' : ∀ x ∈ id'.toList, Path.isDropped x = false) :
    c.Confined kind id r.target ∧ (r.target = r'.target → id = id') := by
  have hpath := carriesPath_of_ofSettings h
  have hkept := not_refused hcall hr
  have hkept' := not_refused hcall' hr'
  have hresidue := Path.residue_of_plain hkept.2.1 hplain
  have hresidue' := Path.residue_of_plain hkept'.2.1 hplain'
  rw [target_of_sends hpath hcall hr, target_of_sends hpath hcall' hr', target_place_inj,
    hresidue, hresidue', String.toList_inj, confined_iff, hresidue]
  refine ⟨⟨fun hempty => ?_, fun hback => ?_⟩, fun heq => heq⟩
  · exact hkept.1 (String.toList_inj.mp hempty)
  · exact hkept.2.2 (String.toList_inj.mp hback)

end Client

end AlertDesk
