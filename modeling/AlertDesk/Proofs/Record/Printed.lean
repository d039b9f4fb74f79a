import AlertDesk.Proofs.EditForm.ReportLossless
import AlertDesk.Proofs.Json.RoundTrip

/-!
# AlertDesk.Proofs.Record.Printed

Written records as JSON texts.  A record that was read from a JSON text is written
within the limits of such texts, which is half of what it takes to be read back.
Only a report can hold a double; the others are texts and lists of texts.

Main facts:

* `readable_encode` — what is written of a record that was read is within the limits;
* `not_hasReal_encode` — only what is written of a report can have a double.
-/

namespace AlertDesk

/-- To insert what is there changes nothing. -/
theorem Keyed.insert_of_get? {β : Type} {members : List (String × β)} {key : String} {v : β}
    (h : Ascending members) (hget : get? key members = some v) :
    insert key v members = members := by
  refine (h.insert key v).ext h fun k => ?_
  rw [get?_insert]
  split
  · next heq => rw [heq, hget]
  · rfl

/-- Members ascend if their keys do. -/
theorem Keyed.ascending_of_keys {β : Type} {members : List (String × β)} (keys : List String)
    (h : keys.Pairwise (· < ·)) (hkeys : members.map Prod.fst = keys) : Ascending members :=
  List.pairwise_map.mp (hkeys ▸ h)

namespace Json

theorem not_hasReal_str (s : String) : ¬ HasReal (.str s) := nofun

theorem not_hasReal_int (i : Int) : ¬ HasReal (.num (.int i)) := nofun

theorem not_hasReal_arr {items : List Json} (h : ∀ v ∈ items, ¬ HasReal v) :
    ¬ HasReal (.arr items)
  | .item hv hreal => h _ hv hreal

theorem not_hasReal_obj {members : List (String × Json)} (h : ∀ p ∈ members, ¬ HasReal p.2) :
    ¬ HasReal (.obj members)
  | .member hp hreal => h _ hp hreal

/-- An object of texts is within the limits and has no doubles. -/
theorem plain_of_texts {members : List (String × Json)} (ascending : Keyed.Ascending members)
    (texts : ∀ p ∈ members, ∃ s, p.2 = .str s) (depth : Nat) :
    Readable (depth + 1) (.obj members) ∧ ¬ HasReal (.obj members) := by
  refine ⟨⟨ascending, fun p hp => ?_⟩, not_hasReal_obj fun p hp => ?_⟩
  · obtain ⟨s, hs⟩ := texts p hp
    rw [hs]
    exact readable_str depth s
  · obtain ⟨s, hs⟩ := texts p hp
    rw [hs]
    exact not_hasReal_str s

end Json

open Json

theorem Alert.plain_encode (a : Alert) (depth : Nat) :
    Readable (depth + 1) a.encode ∧ ¬ HasReal a.encode :=
  plain_of_texts (Keyed.ascending_of_keys
    ["checkInterval", "comment", "id", "name", "notificationGroupId", "query"] (by decide) rfl)
    (by simp) depth

theorem PagerDutyEndpoint.plain_encode (e : PagerDutyEndpoint) (depth : Nat) :
    Readable (depth + 1) e.encode ∧ ¬ HasReal e.encode :=
  plain_of_texts (Keyed.ascending_of_keys
    ["address", "comment", "id", "name", "serviceKey"] (by decide) rfl) (by simp) depth

theorem Recipient.plain_encode (r : Recipient) (depth : Nat) :
    Readable (depth + 1) r.encode ∧ ¬ HasReal r.encode := by
  have ascending : [r.targetKey, "type"].Pairwise (· < ·) := by
    cases r <;> simp only [targetKey] <;> decide
  exact plain_of_texts (Keyed.ascending_of_keys _ ascending rfl) (by simp) depth

theorem NotificationGroup.plain_encode (g : NotificationGroup) (depth : Nat) :
    Readable (depth + 3) g.encode ∧ ¬ HasReal g.encode := by
  have hitem : ∀ v ∈ g.recipients.map Recipient.encode, Readable (depth + 1) v ∧ ¬ HasReal v := by
    intro v hv
    obtain ⟨r, -, rfl⟩ := List.mem_map.mp hv
    exact r.plain_encode depth
  have hreal := not_hasReal_arr fun v hv => (hitem v hv).2
  refine ⟨⟨Keyed.ascending_of_keys ["id", "name", "recipients"] (by decide) rfl, ?_⟩,
    not_hasReal_obj ?_⟩
  · exact List.forall_mem_cons.mpr ⟨readable_str _ _, List.forall_mem_cons.mpr
      ⟨readable_str _ _, List.forall_mem_singleton.mpr fun v hv => (hitem v hv).1⟩⟩
  · exact List.forall_mem_cons.mpr ⟨not_hasReal_str _, List.forall_mem_cons.mpr
      ⟨not_hasReal_str _, List.forall_mem_singleton.mpr hreal⟩⟩

/-- A report is written as the value that it was read from. -/
theorem Report.encode_of_decode {v : Json} {r : Report} {depth : Nat} (readable : Readable depth v)
    (h : decode v = .ok r) : encode r = v := by
  have hid := get?_of_decode h
  cases v with
  | obj members =>
      cases depth with
      | zero => exact False.elim readable
      | succ depth =>
          have hencode := encode_read readable.1 hid
          rw [decode_obj readable.1 hid] at h
          rwa [(requireId_eq_ok_iff.mp h).2] at hencode
  | _ => contradiction

namespace Kind.Record

variable {k : Kind} {r : k.Record}

/-- **What is written of a record** that was read from a text is within the limits
of texts. -/
theorem readable_encode {v : Json} (readable : Readable 127 v) (h : Entity.decode v = .ok r) :
    Readable 127 (Entity.encode r) := by
  cases k with
  | alert => exact (Alert.plain_encode r 126).1
  | notificationGroup => exact (NotificationGroup.plain_encode r 124).1
  | pagerDutyEndpoint => exact (PagerDutyEndpoint.plain_encode r 126).1
  | report =>
      have hencode : Entity.encode r = v := Report.encode_of_decode readable h
      rwa [hencode]

/-- Only what is written of a report can have a double. -/
theorem not_hasReal_encode (hk : k ≠ .report) (r : k.Record) : ¬ HasReal (Entity.encode r) := by
  cases k with
  | alert => exact (Alert.plain_encode r 0).2
  | notificationGroup => exact (NotificationGroup.plain_encode r 0).2
  | pagerDutyEndpoint => exact (PagerDutyEndpoint.plain_encode r 0).2
  | report => contradiction

/-- What is written of an empty record is within the limits and has no doubles. -/
theorem plain_encode_blank (k : Kind) (id : String) :
    Readable 127 (Entity.encode (Entity.blank id : k.Record)) ∧
      ¬ HasReal (Entity.encode (Entity.blank id : k.Record)) := by
  cases k with
  | alert => exact Alert.plain_encode _ 126
  | notificationGroup => exact NotificationGroup.plain_encode _ 124
  | pagerDutyEndpoint => exact PagerDutyEndpoint.plain_encode _ 126
  | report => exact plain_of_texts (List.pairwise_singleton _ _) (by simp) 126

end Kind.Record

end AlertDesk
