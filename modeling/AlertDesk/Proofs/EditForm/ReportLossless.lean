import AlertDesk.EditForm.Session
import AlertDesk.Proofs.Record.Read
import AlertDesk.Proofs.Record.RoundTrip
import AlertDesk.Reply

/-!
# AlertDesk.Proofs.EditForm.ReportLossless

A report is written back as it was read.  Of an object that names a report the
identifier is taken out and every other member is kept as it is; writing merges
the two again, and what comes out has the same members, none lost, none doubled
and none changed.  So a form that loads a report and saves it, unedited, hands
the portal exactly the value that the portal gave.

Main facts:

* `encode_read` — the merge undoes the split;
* `get?_of_decode`, `eq_decode_of_decode` — what is read has a text under `id`,
  and what is not read is a decode error;
* `report_written_back` — the value that was loaded is the value that is saved.
-/

namespace AlertDesk

namespace Report

variable {members : List (String × Json)} {v : Json} {id : String} {r : Report} {e : PortalError}

/-- **The merge undoes the split.**  The identifier and the other members, put
together again, are the members there were. -/
theorem encode_read (h : Keyed.Ascending members)
    (hid : Keyed.get? "id" members = some (.str id)) :
    encode { id, fields := Dict.ofList (layout.others (.obj members)) } = .obj members := by
  have hkeys : ∀ key, Keyed.get? key (Report.members
      { id, fields := Dict.ofList (layout.others (.obj members)) }) = Keyed.get? key members := by
    intro key
    rw [get?_members, Layout.get?_others h]
    by_cases hkey : key = "id"
    · rw [if_pos ((owns_iff key).mpr hkey), if_pos hkey, hkey, hid, Option.none_or]
    · rw [if_neg (mt (owns_iff key).mp hkey), if_neg hkey, Option.or_none]
  exact congrArg Json.obj ((ascending_members _).ext h hkeys)

/-- What was read stood under `id`. -/
theorem get?_of_decode (h : decode v = .ok r) : v.get? "id" = some (.str r.id) := by
  cases v with
  | obj members => exact Kind.Record.get?_id_of_decode (k := .report) h
  | _ => contradiction

/-- A report that cannot be read is a decode error. -/
theorem eq_decode_of_decode (h : decode v = .error e) : ∃ reason, e = .decode reason := by
  have hfaults : Faults PortalError.IsDecode (decode v) :=
    (isDecode_decoded _).bind fun _ => isDecode_requireId _ _ _
  exact hfaults e h

end Report

namespace EditForm

variable {σ : Type}

/-- **A report is written back as it was read.**  Whatever an object holds beside
a text under `id` that is not empty, a report of that identifier is read from it,
and written as the very same object; a form that is given the object as the
answer to a load, and is then saved, hands it to the portal.  Every other value
is refused as a decode error. -/
theorem report_written_back (portal : Portal σ) (token : CsrfToken) (f : EditForm Report) (p : σ)
    (asked fresh : String) :
    (∀ members id, Keyed.Ascending members → Keyed.get? "id" members = some (.str id) → id ≠ "" →
      (∃ r, Report.decode (.obj members) = .ok r ∧ r.id = id ∧
        Report.encode r = .obj members) ∧
      ∀ p', portal (.get .report asked) p = (some (.ok (.obj members)), p') →
        (turns portal token f p [.activate (some asked) fresh, .save]).map Turn.calls =
          [[.get .report asked], [.upsert .report (.obj members) token]]) ∧
    ∀ v, (∀ id, v.get? "id" = some (.str id) → id = "") →
      ∃ reason, Report.decode v = .error (.decode reason) := by
  constructor
  · intro members id hmembers hget hid
    have hdecode := (Report.decode_obj hmembers hget).trans (requireId_eq_ok_iff.mpr ⟨hid, rfl⟩)
    have hencode := Report.encode_read hmembers hget
    refine ⟨⟨_, hdecode, rfl, hencode⟩, fun p' hanswer => ?_⟩
    have hload : f.activate portal (some asked) fresh p = _ :=
      activate_answered (show portal (.get (Entity.kind Report) asked) p = _ from hanswer)
    have hbind : (Except.ok (.obj members)).bind (Entity.decode (α := Report)) = .ok _ := hdecode
    rw [loaded_of_ok hbind] at hload
    simp only [turns, act, List.map_cons, List.map_nil, hload, calls_save]
    have hbody : Entity.encode (α := Report) _ = .obj members := hencode
    rw [if_neg (show Entity.id _ ≠ "" from hid), hbody]
    rfl
  · intro v hv
    cases hdecode : Report.decode v with
    | ok r =>
        have hempty := hv r.id (Report.get?_of_decode hdecode)
        exact absurd hempty (Kind.Record.id_ne_empty_of_decode (k := .report) hdecode)
    | error e =>
        obtain ⟨reason, rfl⟩ := Report.eq_decode_of_decode hdecode
        exact ⟨reason, rfl⟩

/-- A report with nulls, and with members on both sides of its identifier, is
loaded and saved as it was; one whose identifier is a number is refused. -/
theorem report_written_back_nested :
    let members : List (String × Json) := [("a", .obj [("id", .null)]), ("id", .str "r1"),
      ("owner", .null), ("rows", .arr [.num (.int 1), .null, .obj [("x", .arr [])]])]
    let numbered : Json := .obj [("id", .num (.int 7)), ("owner", .null)]
    let replies : List Reply := [.ok (.obj members), .ok .null]
    let form : EditForm Report := initial
    Keyed.Ascending members ∧ Keyed.get? "id" members = some (.str "r1") ∧ "r1" ≠ "" ∧
      Reply.script (.get .report "r1") replies = (some (.ok (.obj members)), [.ok .null]) ∧
      (∃ r, Report.decode (.obj members) = .ok r ∧ r.id = "r1" ∧
        Report.encode r = .obj members) ∧
      (turns Reply.script ⟨"t"⟩ form replies [.activate (some "r1") "", .save]).map Turn.calls =
        [[.get .report "r1"], [.upsert .report (.obj members) ⟨"t"⟩]] ∧
      (∀ id, numbered.get? "id" = some (.str id) → id = "") ∧
      ∃ reason, Report.decode numbered = .error (.decode reason) := by
  intro members numbered replies form
  have hmembers : Keyed.Ascending members := by decide
  have hid : Keyed.get? "id" members = some (.str "r1") := rfl
  have hanswer : Reply.script (.get .report "r1") replies =
      (some (.ok (.obj members)), [.ok .null]) := rfl
  have hnumbered : ∀ id, numbered.get? "id" = some (.str id) → id = "" := by
    intro id hget
    have hnumber : Json.num (.int 7) = .str id := Option.some.inj hget
    contradiction
  obtain ⟨hread, hrefused⟩ := report_written_back Reply.script ⟨"t"⟩ form replies "r1" ""
  obtain ⟨hrecord, hsaved⟩ := hread members "r1" hmembers hid (by decide)
  exact ⟨hmembers, hid, by decide, hanswer, hrecord, hsaved _ hanswer, hnumbered,
    hrefused numbered hnumbered⟩

end EditForm

end AlertDesk
