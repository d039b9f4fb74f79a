import AlertDesk.Proofs.Layout.Members
import AlertDesk.Record.OfKind

/-!
# AlertDesk.Proofs.Record.Identifier

The identifier of a record and the member `id` of the object it is written as.
They are the same but for one case: the other members of a report may be
assigned freely, and one that is called `id` stands in front of the identifier
(`shadowId?`).  No record that was read has one.

Main facts:

* `get?_id_encode` — the member `id` of a written record;
* `id_ne_empty_of_decode`, `shadowId?_of_decode` — a record that was read has an
  identifier, and nothing stands in front of it.
-/

namespace AlertDesk

/-! ## steps of a decoder -/

theorem decoded_eq_ok_iff {α : Type} {x : Except Mismatch α} {a : α} :
    decoded x = .ok a ↔ x = .ok a := by
  cases x <;> simp [decoded]

theorem requireId_eq_ok_iff {α : Type} {kind : Kind} {id : α → String} {r r' : α} :
    requireId kind id r = .ok r' ↔ id r ≠ "" ∧ r = r' := by
  unfold requireId
  split
  · next h => simp [h]
  · next h => simp [h]

/-- What passes the test for an identifier at the end of a decoder has one. -/
theorem id_ne_empty_of_bind {α β : Type} {x : Except PortalError β} {f : β → α} {kind : Kind}
    {id : α → String} {r : α} (h : (x >>= fun b => requireId kind id (f b)) = .ok r) :
    id r ≠ "" := by
  obtain ⟨b, -, hb⟩ := bind_eq_ok_iff.mp h
  obtain ⟨hid, rfl⟩ := requireId_eq_ok_iff.mp hb
  exact hid

namespace Report

theorem layout_plain : layout.Plain := by decide

/-- What is read has no other member called `id`. -/
theorem get?_id_of_decode {v : Json} {r : Report} (h : decode v = .ok r) :
    r.fields.get? "id" = none := by
  rw [decode, bind_eq_ok_iff] at h
  obtain ⟨fields, -, h⟩ := h
  obtain ⟨-, rfl⟩ := requireId_eq_ok_iff.mp h
  refine Keyed.get?_eq_none_iff.mpr fun hmem => ?_
  obtain ⟨p, hp, hid⟩ := List.mem_map.mp hmem
  have hother : p ∈ layout.others v := Keyed.mem_ofList hp
  cases v with
  | obj members =>
      have howned : layout.owns p.1 = false := by simpa using (List.mem_filter.mp hother).2
      rw [hid] at howned
      contradiction
  | _ => contradiction

end Report

namespace Kind.Record

variable {k : Kind} {r : k.Record}

/-- What stands in front of the identifier when the record is written: the
member `id` among the other members of a report. -/
def shadowId? : (k : Kind) → k.Record → Option Json
  | .report, r => Dict.get? (Report.fields r) "id"
  | .alert, _ | .notificationGroup, _ | .pagerDutyEndpoint, _ => none

@[simp] theorem shadowId?_empty (k : Kind) : shadowId? k Entity.empty = none := by
  cases k <;> rfl

@[simp] theorem shadowId?_setId (r : k.Record) (id : String) :
    shadowId? k (Entity.setId r id) = shadowId? k r := by
  cases k <;> rfl

@[simp] theorem shadowId?_blank (k : Kind) (id : String) : shadowId? k (Entity.blank id) = none := by
  rw [Entity.blank, shadowId?_setId, shadowId?_empty]

@[simp] theorem id_blank (k : Kind) (id : String) :
    Entity.id (Entity.blank id : k.Record) = id := by
  cases k <;> rfl

/-- Assigning a member of another name puts nothing in front of the identifier. -/
theorem shadowId?_setField {r' : k.Record} {field : String} {v : Json} (hfield : field ≠ "id")
    (h : setField k r field v = some r') : shadowId? k r' = shadowId? k r := by
  cases k with
  | report =>
      obtain rfl := Option.some.inj h
      exact Dict.get?_insert_of_ne _ hfield.symm v
  | _ => rfl

/-- **The member `id` of a written record** is its identifier, unless something
stands in front of it. -/
theorem get?_id_encode (r : k.Record) : ∃ members, Entity.encode r = .obj members ∧
    Keyed.get? "id" members = some ((shadowId? k r).getD (.str (Entity.id r))) := by
  cases k with
  | report =>
      refine ⟨_, rfl, ?_⟩
      rw [Keyed.get?_insertAll (Report.fields r).ascending.nodup]
      change ((Report.fields r).get? "id").or (some _) =
        some (((Report.fields r).get? "id").getD (.str (Report.id r)))
      cases (Report.fields r).get? "id" <;> rfl
  | _ => exact ⟨_, rfl, rfl⟩

/-- What is read has an identifier. -/
theorem id_ne_empty_of_decode {v : Json} (h : Entity.decode v = .ok r) : Entity.id r ≠ "" := by
  cases k with
  | notificationGroup =>
      obtain ⟨fields, -, hrest⟩ := bind_eq_ok_iff.mp h
      exact id_ne_empty_of_bind hrest
  | alert => exact id_ne_empty_of_bind (r := r) h
  | pagerDutyEndpoint => exact id_ne_empty_of_bind (r := r) h
  | report => exact id_ne_empty_of_bind (r := r) h

/-- What is read has nothing in front of its identifier. -/
theorem shadowId?_of_decode {v : Json} (h : Entity.decode v = .ok r) : shadowId? k r = none := by
  cases k with
  | report => exact Report.get?_id_of_decode h
  | _ => rfl

end Kind.Record

end AlertDesk
