import AlertDesk.EditForm.Session
import AlertDesk.Proofs.Console.Steps
import AlertDesk.Proofs.Record.Read

/-!
# AlertDesk.Proofs.Console.Put

The identifier under which a file is put.

A put reads the identifier of the file, looks the record up, and writes the file
under the identifier that the form has by then (`WritesUnder`): the fresh one if
the file has no identifier, that of the record if one was found, and otherwise
the one that was looked up.  Only a text that is not empty is an identifier of a
file; whatever else stands under `id` is written over.

Main fact: `put_id` — under which `id` a put writes, and when that is the file's.
-/

namespace AlertDesk.Console

variable {k : Kind} {σ : Type} {portal : Portal σ} {token : CsrfToken} {p : σ}
variable {answer : (call : Call) → σ → call.Answer × σ}
variable {v : Json} {members : List (String × Json)} {fresh id : String}

/-! ## the identifier of a file -/

/-- A file has an identifier if a text stands under `id` that is not empty. -/
def Names (v : Json) (id : String) : Prop := v.get? "id" = some (.str id) ∧ id ≠ ""

theorem fileId?_eq_some_iff : fileId? v = some id ↔ Names v id := by
  unfold fileId? Names
  cases v.get? "id" with
  | none => simp
  | some w => cases w <;> simp [Json.text?]

theorem fileId?_eq_none_iff : fileId? v = none ↔ ∀ id, ¬ Names v id := by
  simp [← fileId?_eq_some_iff, Option.eq_none_iff_forall_ne_some]

theorem get?_withId (members : List (String × Json)) (id : String) :
    (withId (.obj members) id).get? "id" = some (.str id) :=
  Keyed.get?_insert_self "id" (Json.str id) members

/-- What a value is with an identifier in it: an object has it under `id` and
otherwise what it had, and any other value stays as it is. -/
inductive Identified (id : String) : Json → Json → Prop where
  | object {members out : List (String × Json)} (set : Keyed.get? "id" out = some (.str id))
      (others : ∀ name, name ≠ "id" → Keyed.get? name out = Keyed.get? name members) :
      Identified id (.obj members) (.obj out)
  | other {v : Json} (plain : ∀ members, v ≠ .obj members) : Identified id v v

theorem identified_withId (v : Json) (id : String) : Identified id v (withId v id) := by
  cases v with
  | obj members =>
    exact .object (get?_withId members id) fun name h => Keyed.get?_insert_of_ne h _ members
  | _ => exact .other nofun

/-! ## what the calls leave behind -/

section

variable {α : Type} [Entity α] (answer : (call : Call) → σ → call.Answer × σ)

theorem portal_activate (f : EditForm α) (id : Option String) (fresh : String) (p : σ) :
    (f.activate (.answering answer) id fresh p).portal =
      kept answer p (callsOfTurn (f.activate (.answering answer) id fresh p)) := by
  cases id <;> rfl

theorem portal_save (token : CsrfToken) (f : EditForm α) (p : σ) :
    (f.save (.answering answer) token p).portal =
      kept answer p (callsOfTurn (f.save (.answering answer) token p)) := by
  unfold EditForm.save
  split <;> rfl

theorem portal_putOver (token : CsrfToken) (form : EditForm α) (v : Json) (p : σ) :
    (putOver (.answering answer) token form v p).portal =
      kept answer p (putOver (.answering answer) token form v p).events := by
  unfold putOver
  dsimp only
  split
  · rfl
  · split
    · exact portal_save ..
    · exact portal_save ..
    · simp only [Run.done, kept_append, portal_save]
      rfl

/-- The portal is left as the calls of the put leave it. -/
theorem portal_putValue (token : CsrfToken) (v : Json) (fresh : String) (p : σ) :
    (putValue (.answering answer) token α v fresh p).portal =
      kept answer p (putValue (.answering answer) token α v fresh p).events := by
  unfold putValue
  dsimp only
  split
  · exact portal_activate ..
  · exact portal_activate ..
  · rw [portal_after, events_after, kept_append, ← portal_activate]
    exact portal_putOver ..

end

/-! ## what is written -/

/-- The identifiers that a put may write a file under; `lookup` is what comes of
looking a record up. -/
inductive WritesUnder (k : Kind) (lookup : String → Except PortalError k.Record) (v : Json)
    (fresh : String) : String → Prop
  /-- A file without an identifier gets a fresh one. -/
  | anew (unnamed : ∀ asked, ¬ Names v asked) : WritesUnder k lookup v fresh fresh
  /-- A record that is not there is created. -/
  | create {asked collection named : String} (names : Names v asked)
      (absent : lookup asked = .error (.notFound collection named)) :
      WritesUnder k lookup v fresh asked
  /-- A record that is there is replaced. -/
  | replace {asked : String} {record : k.Record} (names : Names v asked)
      (there : lookup asked = .ok record) : WritesUnder k lookup v fresh (Entity.id record)

/-- The file keeps its identifier if it has one and no other is found for it. -/
theorem WritesUnder.keeps_iff {lookup : String → Except PortalError k.Record} {written : String}
    (h : WritesUnder k lookup v fresh written) (nonempty : written ≠ "") :
    some (.str written) = v.get? "id" ↔ ∃ asked, Names v asked ∧
      ∀ record, lookup asked = .ok record → Entity.id record = asked := by
  cases h with
  | anew unnamed =>
    refine iff_of_false (fun kept => unnamed fresh ⟨kept.symm, nonempty⟩) ?_
    exact fun ⟨asked, names, _⟩ => unnamed asked names
  | create names absent =>
    exact iff_of_true names.1.symm ⟨_, names, fun record there => by simp [absent] at there⟩
  | replace names there =>
    constructor
    · intro kept
      obtain ⟨rfl⟩ := names.1.symm.trans kept.symm
      exact ⟨_, names, fun record' there' => by simp_all⟩
    · rintro ⟨asked, names', keeps⟩
      obtain ⟨rfl⟩ := names.1.symm.trans names'.1
      exact keeps _ there ▸ names.1.symm

/-- What comes of looking a record up. -/
def lookup (answer : (call : Call) → σ → call.Answer × σ) (k : Kind) (p : σ) (id : String) :
    Except PortalError k.Record :=
  (answer (.get k id) p).1.bind Entity.decode

/-- What is written in place of a form's record is the file under its identifier. -/
theorem upsert_of_putOver {form : EditForm k.Record} {kind : Kind} {body : Json}
    {token' : CsrfToken}
    (h : .called (.upsert kind body token') ∈ (putOver portal token form v p).events) :
    ∃ record : k.Record, Entity.decode (withId v (Entity.id form.record)) = .ok record ∧
      body = Entity.encode record := by
  unfold putOver at h
  dsimp only at h
  split at h
  · contradiction
  · next record hdecode =>
    have hsave : .upsert kind body token' ∈
        ((form.edit fun _ => record).save portal token p).calls := by
      split at h <;> simpa [Run.waiting, Run.failed, Run.done, printed, callsOfTurn] using h
    obtain ⟨-, -, -, -, rfl⟩ :=
      EditForm.upsert_of_act (f := form.edit fun _ => record) (a := .save) hsave
    rw [EditForm.act, EditForm.record_save]
    exact ⟨record, hdecode, rfl⟩

/-- **What a put writes** is the file under the identifier that its lookup left. -/
theorem upsert_of_putValue {kind : Kind} {body : Json} {token' : CsrfToken}
    (h : .called (.upsert kind body token') ∈
      (putValue (.answering answer) token k.Record v fresh p).events) :
    ∃ written, WritesUnder k (lookup answer k p) v fresh written ∧
      ∃ record : k.Record, Entity.decode (withId v written) = .ok record ∧
        body = Entity.encode record := by
  unfold putValue at h
  cases hfile : fileId? v with
  | none =>
    simp only [hfile, EditForm.activate, Option.map_some, clean, events_after, callsOfTurn,
      List.map_nil, List.nil_append] at h
    have hput := upsert_of_putOver h
    rw [EditForm.startNew, Kind.Record.id_blank] at hput
    exact ⟨fresh, .anew (fileId?_eq_none_iff.mp hfile), hput⟩
  | some asked =>
    have names := fileId?_eq_some_iff.mp hfile
    have looked : (EditForm.initial : EditForm k.Record).activate (.answering answer) (some asked)
        fresh p = _ := EditForm.activate_answered (Portal.answering_apply ..)
    rw [hfile, looked, Kind.Record.kind_eq] at h
    cases there : lookup answer k p asked with
    | ok record =>
      rw [EditForm.loaded_of_ok there] at h
      simp only [Option.map_some, clean, events_after, callsOfTurn] at h
      exact ⟨_, .replace names there, upsert_of_putOver (by simpa using h)⟩
    | error e =>
      rw [EditForm.loaded_of_error there] at h
      cases e with
      | notFound collection named =>
        simp only [Option.map_some, clean, events_after, callsOfTurn] at h
        have hput := upsert_of_putOver (by simpa using h)
        rw [EditForm.startLoading, Kind.Record.id_blank] at hput
        exact ⟨asked, .create names there, hput⟩
      | _ => simp [clean, Run.failed, callsOfTurn] at h

/-- What is written under an identifier has it as its `id`. -/
theorem get?_id_written {written : String} {record : k.Record}
    (h : Entity.decode (withId (.obj members) written) = .ok record) : written ≠ "" ∧
      ∃ out, Entity.encode record = .obj out ∧ Keyed.get? "id" out = some (.str written) := by
  obtain ⟨out, hencode, hget⟩ := Kind.Record.get?_id_encode record
  have hid : Entity.id record = written := by
    simpa using (Kind.Record.get?_id_of_decode h).symm.trans (get?_withId members written)
  rw [Kind.Record.shadowId?_of_decode h, Option.getD_none, hid] at hget
  exact ⟨hid ▸ Kind.Record.id_ne_empty_of_decode h, out, hencode, hget⟩

/-- **Under which `id` a put writes.**  Whatever the portal answers, every record
that a put sends is an object, and its `id` is one that the put may write under.
It is the `id` of the file if and only if the file has an identifier and no
record of another one is found for it.  A file with an identifier makes no use
of the fresh one. -/
theorem put_id (c : Client) (script : Script) (token : CsrfToken) (k : Kind) {text : String}
    {members : List (String × Json)} (read : Json.read? text = .ok (.obj members))
    (fresh : String) :
    let run := put (c.portal script) token k.Record (.ok text) fresh {}
    let found := lookup (c.answer script) k {}
    (∀ r ∈ run.portal.exchanges.map Prod.fst, r.method = "PUT" →
      ∃ out written, r.body = some (.obj out) ∧ Keyed.get? "id" out = some (.str written) ∧
        WritesUnder k found (.obj members) fresh written ∧
        (Keyed.get? "id" out = Keyed.get? "id" members ↔ ∃ asked, Names (.obj members) asked ∧
          ∀ record, found asked = .ok record → Entity.id record = asked)) ∧
    ∀ asked, Names (.obj members) asked →
      ∀ fresh', put (c.portal script) token k.Record (.ok text) fresh' {} = run := by
  intro run found
  have putting : ∀ fresh, put (c.portal script) token k.Record (.ok text) fresh {} =
      putValue (.answering (c.answer script)) token k.Record (.obj members) fresh {} := by
    simp only [put, read, Client.portal, implies_true]
  refine ⟨fun r hr hput => ?_, fun asked names fresh' => ?_⟩
  · rw [show run = _ from putting fresh, portal_putValue] at hr
    obtain hnone | ⟨call, hcall, hmethod, hbody⟩ := mem_exchanges_kept hr
    · contradiction
    · cases call with
      | upsert kind body token' =>
        obtain ⟨written, under, record, hdecode, rfl⟩ := upsert_of_putValue hcall
        obtain ⟨nonempty, out, hencode, hget⟩ := get?_id_written hdecode
        refine ⟨out, written, hbody.trans (congrArg some hencode), hget, under, ?_⟩
        rw [hget]
        exact under.keeps_iff nonempty
      | _ => simp [hmethod, Call.verb] at hput
  · rw [putting, show run = _ from putting fresh]
    simp only [putValue, fileId?_eq_some_iff.mpr names, EditForm.activate]

/-- A file whose record is there is put under the identifier that both have. -/
theorem put_id_replaced :
    let text := "\x7b\"id\":\"a1\",\"name\":\"new\"\x7d"
    let members : List (String × Json) := [("id", .str "a1"), ("name", .str "new")]
    let there := Text.Utf8.bytes "\x7b\"id\":\"a1\",\"name\":\"old\"\x7d"
    let script := Script.ofList [.reply ⟨200, by decide⟩ there true]
    let run := put (Client.desk.portal script) ⟨"t"⟩ Kind.alert.Record (.ok text) "f" {}
    Json.read? text = .ok (.obj members) ∧
      ∃ r ∈ run.portal.exchanges.map Prod.fst, r.method = "PUT" ∧
        ∃ out, r.body = some (.obj out) ∧ Keyed.get? "id" out = Keyed.get? "id" members := by
  intro text members there script run
  have read : Json.read? text = .ok (.obj members) := by decide +kernel
  have found : (lookup (Client.desk.answer script) .alert {} "a1").toOption.map Entity.id =
      some "a1" := by decide +kernel
  have sent : ∃ r ∈ run.portal.exchanges.map Prod.fst, r.method = "PUT" := by decide +kernel
  obtain ⟨r, hr, hput⟩ := sent
  obtain ⟨written, -⟩ := put_id Client.desk script ⟨"t"⟩ .alert read "f"
  obtain ⟨out, -, hbody, -, -, keeps⟩ := written r hr hput
  refine ⟨read, r, hr, hput, out, hbody, keeps.mpr ⟨"a1", ⟨rfl, by decide⟩, fun record h => ?_⟩⟩
  simpa [h, Except.toOption] using found

/-- A number under `id` is written over by a fresh identifier, and a text by that
of the record that the portal has in its place. -/
theorem put_id_written_over :
    let sent := fun (script : Script) (text : String) =>
      (put (Client.desk.portal script) ⟨"t"⟩ Kind.alert.Record (.ok text) "f" {}).portal.exchanges
    let done : Outcome := .reply ⟨204, by decide⟩ [] true
    let other : Outcome := .reply ⟨200, by decide⟩ (Text.Utf8.bytes "\x7b\"id\":\"b2\"\x7d") true
    let numbered := "\x7b\"id\":7,\"name\":\"numeric id\"\x7d"
    let named := "\x7b\"id\":\"a1\",\"name\":\"new\"\x7d"
    Json.read? numbered = .ok (.obj [("id", .num (.int 7)), ("name", .str "numeric id")]) ∧
      (∃ x ∈ sent (.ofList [done]) numbered, x.1.method = "PUT" ∧
        x.1.body.bind (·.get? "id") = some (.str "f")) ∧
      Json.read? named = .ok (.obj [("id", .str "a1"), ("name", .str "new")]) ∧
      ∃ x ∈ sent (.ofList [other, done]) named, x.1.method = "PUT" ∧
        x.1.body.bind (·.get? "id") = some (.str "b2") := by
  intro sent done other numbered named
  refine ⟨?_, ?_, ?_, ?_⟩ <;> decide +kernel

end AlertDesk.Console
