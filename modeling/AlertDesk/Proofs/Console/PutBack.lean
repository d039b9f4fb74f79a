import AlertDesk.Proofs.Console.PutCourse
import AlertDesk.Proofs.Record.Printed
import AlertDesk.Uuid

/-!
# AlertDesk.Proofs.Console.PutBack

What is printed of a record can be put back.  A record that a command prints was
read from an answer of the portal or is empty but for its identifier, so what is
written of it stays within the limits of JSON texts, has the identifier as its
`id`, and decodes as the record.  A put of the printed text therefore looks the
record up under its own identifier and writes the very value that was printed.

Main facts:

* `putsBack` — a record that can be printed can be put back;
* `putsBack_new_generated` — whatever new prints in a run of the program can be put back;
* `put_back` — what show and new print can be put back.
-/

namespace AlertDesk.Console

open Kind.Record

variable {k : Kind} {record : k.Record}

/-! ## what stands under `id` in a written record -/

theorem names_encode (sound : Sound record) :
    Names (Entity.encode record) (Entity.id record) := by
  obtain ⟨members, hencode, hget⟩ := get?_id_encode record
  rw [sound.2] at hget
  rw [hencode]
  exact ⟨hget, sound.1⟩

/-- To set the identifier that a written record has changes nothing. -/
theorem withId_encode (sound : Sound record) {depth : Nat}
    (readable : (Entity.encode record).Readable depth) :
    withId (Entity.encode record) (Entity.id record) = Entity.encode record := by
  obtain ⟨members, hencode, hget⟩ := get?_id_encode record
  rw [sound.2] at hget
  rw [hencode] at readable ⊢
  cases depth with
  | zero => exact False.elim readable
  | succ depth => exact congrArg Json.obj (Keyed.insert_of_get? readable.1 hget)

/-! ## the put of a printed record -/

/-- The response to a lookup says that there is no such record, or gives one of
the same identifier. -/
def Vacant (k : Kind) (id : String) (status : Status) (body : List UInt8) (complete : Bool) :
    Prop :=
  status.code = 404 ∨ status.isSuccess = true ∧ ∃ found, ∃ other : k.Record,
    bodyValue body complete = .ok found ∧ Entity.decode found = .ok other ∧ Entity.id other = id

/-- The text can be put back as the record: whenever the record is looked up and
not found, or found under the same identifier, the put writes exactly what is
written of the record, and prints its identifier if the write is accepted. -/
def PutsBack (record : k.Record) (text : String) : Prop :=
  ∀ (c : Client) (script : Script) (token : CsrfToken) (fresh : String) (status : Status)
    (body : List UInt8) (complete : Bool),
    c.Replied script (.get k (Entity.id record)) 0 status body complete →
    Vacant k (Entity.id record) status body complete →
      let run := put (c.portal script) token k.Record (.ok text) fresh {}
      let write := Call.upsert k (Entity.encode record) token
      run.calls = [.get k (Entity.id record), write] ∧
      (∀ g w, c.Sends (.get k (Entity.id record)) g → c.Sends write w →
        w.method = "PUT" ∧ w.body = some (Entity.encode record) ∧
          run.portal.exchanges = [(g, script 0), (w, script 1)]) ∧
      (c.CanSend write ↔ token.Printable ∧ c.Reaches k []) ∧
      (c.CanSend write → (script 1).Succeeds →
        run.result = some (.ok ()) ∧ run.stdout = Entity.id record ++ "\n")

/-- **A record that can be printed can be put back**, from its text with blanks behind it. -/
theorem putsBack (sound : Sound record) (readable : (Entity.encode record).Readable 127)
    (whole : ¬ (Entity.encode record).HasReal) {blanks : String}
    (hblanks : ∀ x ∈ blanks.toList, Json.isSpace x = true) :
    PutsBack record ((Entity.encode record).pretty ++ blanks) := by
  intro c script token fresh status body complete replied vacant run write
  have names := names_encode sound
  have hread := Json.read?_pretty readable whole hblanks
  have hclean : CleanLookup c script k (Entity.encode record) fresh (Entity.id record) := by
    obtain code | ⟨success, found, other, read, decodes, hid⟩ := vacant
    · exact .absent names replied code
    · exact hid ▸ .there names replied success read decodes
  have decodes : Entity.decode (withId (Entity.encode record) (Entity.id record)) = .ok record := by
    rw [withId_encode sound readable]
    exact (decode_encode sound.2).trans (requireId_eq_ok_iff.mpr ⟨sound.1, rfl⟩)
  have hlookups : lookups k (Entity.encode record) = [.called (.get k (Entity.id record))] := by
    rw [lookups, fileId?_eq_some_iff.mpr names]
    rfl
  have hrun : run = _ := put_of_cleanLookup token hread hclean decodes
  rw [hlookups] at hrun
  -- the journal behind the lookup, whichever request that was
  have hjournal : ∀ g, c.Sends (.get k (Entity.id record)) g →
      (kept (c.answer script) {} [.called (.get k (Entity.id record))]).exchanges =
        [(g, script 0)] := fun g hg => hg script {}
  refine ⟨?_, fun g w hg hw => ?_, Client.canSend_upsert_iff replied.1, fun hsend hsuccess => ?_⟩
  · rw [hrun, calls_after, calls_writing]
    rfl
  · obtain ⟨hmethod, hbody⟩ := Client.request_of_sends hw
    refine ⟨hmethod, hbody, ?_⟩
    have hexchanges := hw script (kept (c.answer script) {} [.called (.get k (Entity.id record))])
    rw [hjournal g hg] at hexchanges
    rw [hrun, portal_after, portal_writing]
    exact hexchanges
  · obtain ⟨g, hg⟩ := replied.1
    have hanswer : (script (kept (c.answer script) {}
        [.called (.get k (Entity.id record))]).exchanges.length).Succeeds := by
      rwa [hjournal g hg]
    rw [hrun, writing_of_ok (Client.upsert_eq_ok_iff.mpr ⟨hsend, hanswer⟩)]
    refine ⟨rfl, ?_⟩
    simp [Run.stdout, Run.done, Event.toStdout, printed]

/-! ## what is printed -/

section

variable {σ : Type}

/-- The record that a show prints. -/
def shown (portal : Portal σ) (k : Kind) (id : String) (p : σ) : k.Record :=
  ((EditForm.initial : EditForm k.Record).activate portal (some id) "" p).form.record

/-- A show that goes well prints a record that was read from the answer. -/
theorem display_eq_ok {answer : (call : Call) → σ → call.Answer × σ} {id : String} {p : σ}
    (h : (display (.answering answer) k.Record id p).result = some (.ok ())) :
    lookup answer k p id = .ok (shown (.answering answer) k id p) ∧
      (display (.answering answer) k.Record id p).stdout =
        (Entity.encode (shown (.answering answer) k id p)).pretty ++ "\n" ++
          ("-- " ++ Entity.editUri (shown (.answering answer) k id p) ++ "\n") := by
  cases hlookup : lookup answer k p id with
  | error e =>
      have hloaded := EditForm.loaded_of_error (f := EditForm.initial.startLoading id) hlookup
      simp [display, activate_named, hloaded, Run.failed] at h
  | ok record =>
      have hloaded := EditForm.loaded_of_ok (f := EditForm.initial.startLoading id) hlookup
      have hshown : shown (.answering answer) k id p = record := by
        simp only [shown, activate_named, hloaded]
      rw [hshown]
      refine ⟨rfl, ?_⟩
      simp [display, activate_named, hloaded, Run.stdout, Run.done, callsOfTurn, Event.toStdout,
        printed]

/-- The value of a body is within the limits of JSON texts. -/
theorem readable_of_bodyValue {body : List UInt8} {complete : Bool} {v : Json}
    (h : bodyValue body complete = .ok v) : v.Readable 127 := by
  obtain ⟨-, cs, -, hread⟩ := bodyValue_eq_ok_iff.mp h
  exact Json.readable_of_readChars hread

/-- What new prints can be put back, if the identifier is not empty. -/
theorem putsBack_new (k : Kind) {blanks : String}
    (hblanks : ∀ x ∈ blanks.toList, Json.isSpace x = true) (portal : Portal σ) {fresh : String}
    (hfresh : fresh ≠ "") (p : σ) :
    let record : k.Record := Entity.blank fresh
    let text := (Entity.encode record).pretty
    (new portal k.Record fresh p).result = some (.ok ()) ∧
      (new portal k.Record fresh p).stdout = text ++ "\n" ∧ PutsBack record (text ++ blanks) := by
  refine ⟨rfl, ?_, ?_⟩
  · simp [new, EditForm.activate, EditForm.startNew, Run.stdout, Run.done, callsOfTurn,
      Event.toStdout, printed]
  · obtain ⟨readable, whole⟩ := plain_encode_blank k fresh
    exact putsBack ⟨by rwa [id_blank], shadowId?_blank k fresh⟩ readable whole hblanks

/-- The identifiers that the program generates are not empty, so that whatever new
prints can be put back. -/
theorem putsBack_new_generated (k : Kind) (portal : Portal σ) (bits : Nat) (p : σ) :
    let record : k.Record := Entity.blank (Uuid.text bits)
    let run := new portal k.Record (Uuid.text bits) p
    run.result = some (.ok ()) ∧ run.stdout = (Entity.encode record).pretty ++ "\n" ∧
      PutsBack record run.stdout := by
  intro record run
  have blank : ∀ x ∈ "\n".toList, Json.isSpace x = true := by simp [Json.isSpace]
  obtain ⟨result, stdout, back⟩ := putsBack_new k blank portal (Uuid.text_ne_empty bits) p
  exact ⟨result, stdout, stdout ▸ back⟩

/-- **What is printed can be put back.**  Every record that show prints, a report
with doubles in it apart, and every record that new prints under an identifier,
can be put back from the JSON text that is printed, with any blanks behind it. -/
theorem put_back (k : Kind) {blanks : String}
    (hblanks : ∀ x ∈ blanks.toList, Json.isSpace x = true) :
    (∀ (c : Client) (script : Script) (id : String) (j : Journal),
      (display (c.portal script) k.Record id j).result = some (.ok ()) →
        let record := shown (c.portal script) k id j
        let text := (Entity.encode record).pretty
        (display (c.portal script) k.Record id j).stdout =
          text ++ "\n" ++ ("-- " ++ Entity.editUri record ++ "\n") ∧
        ((k = .report → ¬ (Entity.encode record).HasReal) →
          PutsBack record (text ++ blanks))) ∧
    ∀ (portal : Portal σ) (fresh : String) (p : σ), fresh ≠ "" →
      let record : k.Record := Entity.blank fresh
      let text := (Entity.encode record).pretty
      (new portal k.Record fresh p).result = some (.ok ()) ∧
        (new portal k.Record fresh p).stdout = text ++ "\n" ∧
        PutsBack record (text ++ blanks) := by
  refine ⟨fun c script id j hresult => ?_,
    fun portal fresh p hfresh => putsBack_new k hblanks portal hfresh p⟩
  obtain ⟨hlookup, hstdout⟩ := display_eq_ok hresult
  refine ⟨hstdout, fun hreport => ?_⟩
  obtain ⟨found, hget, decodes⟩ := bind_eq_ok_iff.mp hlookup
  obtain ⟨status, body, complete, -, -, hbody⟩ := Client.get_eq_ok_iff.mp hget
  have readable := readable_encode (readable_of_bodyValue hbody) decodes
  refine putsBack (sound_of_decode decodes) readable ?_ hblanks
  by_cases hk : k = .report
  · exact hreport hk
  · exact not_hasReal_encode hk _

/-- A report with a list in it is shown, and the text with a line break behind it can be
put where there is no such report. -/
theorem put_back_report :
    let found := "\x7b\"id\":\"r1\",\"rows\":[1,-2]\x7d"
    let answered := Script.ofList [.reply ⟨200, by decide⟩ (Text.Utf8.bytes found) true]
    let replies := Script.ofList [.reply ⟨404, by decide⟩ [] true, .reply ⟨204, by decide⟩ [] true]
    let shows := display (Client.desk.portal answered) Report "r1" {}
    let text := "\x7b\n  \"id\": \"r1\",\n  \"rows\": [\n    1,\n    -2\n  ]\n\x7d"
    let v : Json := .obj [("id", .str "r1"), ("rows", .arr [.num (.int 1), .num (.int (-2))])]
    let puts := put (Client.desk.portal replies) ⟨"t"⟩ Report (.ok (text ++ "\n")) "r2" {}
    (∀ x ∈ "\n".toList, Json.isSpace x = true) ∧ shows.result = some (.ok ()) ∧ ¬ v.HasReal ∧
      shows.stdout = text ++ "\n" ++ "-- #report/edit/r1\n" ∧
      puts.calls = [.get .report "r1", .upsert .report v ⟨"t"⟩] ∧
      puts.result = some (.ok ()) ∧ puts.stdout = "r1\n" := by
  intro found answered replies shows text v puts
  have hblanks : ∀ x ∈ "\n".toList, Json.isSpace x = true := by simp [Json.isSpace]
  have hresult : shows.result = some (.ok ()) := by decide +kernel
  have hrecord : Entity.encode (shown (Client.desk.portal answered) .report "r1" {}) = v := by
    decide +kernel
  have hid : Entity.id (shown (Client.desk.portal answered) .report "r1" {}) = "r1" := by
    decide +kernel
  have htext : v.pretty = text := by decide +kernel
  have whole : ¬ v.HasReal := by
    refine Json.not_hasReal_obj (List.forall_mem_cons.mpr ⟨Json.not_hasReal_str _,
      List.forall_mem_singleton.mpr (Json.not_hasReal_arr ?_)⟩)
    exact List.forall_mem_cons.mpr ⟨Json.not_hasReal_int _,
      List.forall_mem_singleton.mpr (Json.not_hasReal_int _)⟩
  have hput := (put_back (σ := Journal) .report hblanks).1 _ _ _ _ hresult
  generalize shown (Client.desk.portal answered) .report "r1" {} = record at hput hrecord hid
  obtain ⟨hstdout, hback⟩ := hput
  have hput := hback fun _ => hrecord ▸ whole
  have hget : Client.desk.Replied replies (.get .report "r1") 0 ⟨404, by decide⟩ [] true :=
    ⟨⟨_, Client.sends_iff.mpr ⟨_, _, rfl, rfl, rfl⟩⟩, rfl⟩
  have hreaches : Client.desk.Reaches .report [] :=
    (Client.isSendable_iff rfl).mp (by decide +kernel)
  obtain ⟨hcalls, -, hsends, hresponse⟩ :=
    hput Client.desk replies ⟨"t"⟩ "r2" ⟨404, by decide⟩ [] true (hid ▸ hget) (.inl rfl)
  obtain ⟨hdone, hprinted⟩ := hresponse (hsends.mpr ⟨by decide, hreaches⟩) ⟨_, _, _, rfl, rfl⟩
  have huri : "-- " ++ Entity.editUri record ++ "\n" = "-- #report/edit/r1\n" := by
    rw [Entity.editUri, hid]
    decide
  rw [hrecord, htext] at hstdout hcalls hdone hprinted
  rw [huri] at hstdout
  rw [hid] at hcalls hprinted
  exact ⟨hblanks, hresult, whole, hstdout, hcalls, hdone, hprinted⟩

end

end AlertDesk.Console
