import AlertDesk.Proofs.Record.Format

/-!
# AlertDesk.Proofs.Record.Group

Notification groups as they are read.  A group is read in three layers: the
outer shape, each recipient, and the identifier.  The first layer at which
something is wrong tells what is wrong, and of the recipients the leftmost.  If
nothing is wrong the group notifies whom the payloads name, each of them once
and in their order.

Main facts:

* `decode_of_follows` — what is made of a value of the right outer shape;
* `group_read_exactly` — which group is read, and what is wrong if none is.
-/

namespace AlertDesk.NotificationGroup

variable {v : Json}

/-- The outer shape of a group.  Its recipients may be any values. -/
def format : List Slot := [
  { keys := ["id"], takes := Json.TextOrNull },
  { keys := ["name"], takes := Json.TextOrNull },
  { keys := ["recipients", "entries"], takes := Json.ListOrNull }]

/-- The payloads of a group's recipients. -/
def payloads (v : Json) : List Json := v.itemsAt ["recipients", "entries"] 2

theorem layout_apart : layout.Apart := by decide

theorem format_layout : layout.format = format := by
  simp only [Layout.format, layout, format, Field.keys, List.map_cons, List.map_nil,
    checkText_eq_ok_iff, checkList_eq_ok_iff, Option.toList_none, Option.toList_some]

/-- What is made of a value of the right outer shape. -/
theorem decode_of_follows (h : v.Follows format) : decode v =
    (payloads v).mapM Recipient.decode >>= fun recipients =>
      requireId .notificationGroup NotificationGroup.id
        { id := v.textAt ["id"] 0, name := v.textAt ["name"] 1, recipients } := by
  rw [← format_layout] at h
  obtain ⟨fields, hread⟩ := layout_apart.read_eq_ok_iff.mpr h
  have hid : textOf (Keyed.get? "id" fields) = v.textAt ["id"] 0 :=
    layout_apart.textOf_of_read hread rfl
  have hname : textOf (Keyed.get? "name" fields) = v.textAt ["name"] 1 :=
    layout_apart.textOf_of_read hread rfl
  have hpayloads : itemsOf (Keyed.get? "recipients" fields) = payloads v :=
    layout_apart.itemsOf_of_read hread rfl
  rw [decode, hread, ← hid, ← hname, ← hpayloads]
  rfl

/-- What is wrong with the identifier of a group that has none. -/
theorem requireId_eq_error_iff {g : NotificationGroup} {e : PortalError} :
    requireId .notificationGroup NotificationGroup.id g = .error e ↔
      g.id = "" ∧ e = .decode "notificationgroup record is missing an id" := by
  unfold requireId
  split
  · next h => simp [h, Kind.route, eq_comm]
  · next h => simp [h]

/-- **A group is read in three layers.**  A value of another outer shape is a decode
error, whatever its payloads hold.  One of the right shape is read if every
payload is and it has an identifier; then the recipients are what is read of the
payloads, one for each and in order.  Otherwise the leftmost payload that is not
read tells what is wrong, and the missing identifier only if there is none. -/
theorem group_read_exactly (v : Json) :
    (v.Follows format →
      (∀ g, decode v = .ok g ↔ (payloads v).map Recipient.decode = g.recipients.map .ok ∧
        g.id = v.textAt ["id"] 0 ∧ g.id ≠ "" ∧ g.name = v.textAt ["name"] 1) ∧
      ((∃ g, decode v = .ok g) ↔
        (∀ p ∈ payloads v, ∃ r, Recipient.decode p = .ok r) ∧ v.textAt ["id"] 0 ≠ "") ∧
      ∀ e, decode v = .error e ↔
        (∃ before p after, payloads v = before ++ p :: after ∧
          (∀ q ∈ before, ∃ r, Recipient.decode q = .ok r) ∧ Recipient.decode p = .error e) ∨
        (∀ p ∈ payloads v, ∃ r, Recipient.decode p = .ok r) ∧ v.textAt ["id"] 0 = "" ∧
          e = .decode "notificationgroup record is missing an id") ∧
    (¬ v.Follows format → ∃ reason, decode v = .error (.decode reason)) := by
  constructor
  · intro h
    simp only [decode_of_follows h, bind_eq_ok_iff, bind_eq_error_iff, requireId_eq_ok_iff,
      requireId_eq_error_iff, mapM_eq_error_iff]
    refine ⟨fun g => ?_, ?_, fun e => ?_⟩
    · constructor
      · rintro ⟨recipients, hrecipients, hid, rfl⟩
        exact ⟨mapM_eq_ok_iff.mp hrecipients, rfl, hid, rfl⟩
      · rintro ⟨hrecipients, hid, hne, hname⟩
        rw [← hid, ← hname]
        exact ⟨g.recipients, mapM_eq_ok_iff.mpr hrecipients, hne, rfl⟩
    · rw [← exists_mapM_eq_ok_iff]
      constructor
      · rintro ⟨-, recipients, hrecipients, hid, -⟩
        exact ⟨⟨recipients, hrecipients⟩, hid⟩
      · rintro ⟨⟨recipients, hrecipients⟩, hid⟩
        exact ⟨_, recipients, hrecipients, hid, rfl⟩
    · rw [← exists_mapM_eq_ok_iff, exists_and_right]
  · intro h
    rw [← format_layout] at h
    exact layout_apart.decode_of_not_follows h

/-- The second of three payloads notifies by fax, the third is none, and there is no
identifier: the fax is what is wrong.  Given under both names of the list, even
once as null, no payload is looked at. -/
theorem group_read_exactly_fax :
    let email : Json := .obj [("address", .str "a@x"), ("type", .str "email")]
    let fax : Json := .obj [("address", .str "123"), ("type", .str "fax")]
    let v : Json := .obj [("entries", .arr [email, fax, .null]), ("name", .null)]
    let both : Json := .obj [("entries", .null), ("id", .str "g1"), ("recipients", .arr [fax])]
    v.Follows format ∧ decode v = .error (.unrecognizedVariant "fax") ∧
      ¬ both.Follows format ∧ ∃ reason, decode both = .error (.decode reason) := by
  intro email fax v both
  have hv : v.Follows format := format_layout ▸ layout_apart.read_eq_ok_iff.mp ⟨_, rfl⟩
  have hboth : ¬ both.Follows format := by
    rw [← format_layout, ← layout_apart.read_eq_ok_iff]
    rintro ⟨fields, hread⟩
    contradiction
  have hpayloads : payloads v = [email] ++ fax :: [.null] := rfl
  have hemail : ∀ q ∈ [email], ∃ r, Recipient.decode q = .ok r :=
    List.forall_mem_singleton.mpr ⟨.email "a@x", rfl⟩
  exact ⟨hv, (((group_read_exactly v).1 hv).2.2 _).mpr
    (.inl ⟨[email], fax, [.null], hpayloads, hemail, rfl⟩),
    hboth, (group_read_exactly both).2 hboth⟩

end AlertDesk.NotificationGroup
