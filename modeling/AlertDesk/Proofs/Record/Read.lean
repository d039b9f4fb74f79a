import AlertDesk.Proofs.Record.ExplicitNull

/-!
# AlertDesk.Proofs.Record.Read

What a record that was read from an object owes to the object's members.

Main fact: `get?_id_of_decode` — its identifier is the text that stood under `id`.
-/

namespace AlertDesk.Kind

variable {k : Kind} {members fields : List (String × Json)} {r : k.Record}

/-- The identifier has one spelling. -/
theorem field?_id (k : Kind) : (k.layout.field? "id").map Field.name = some "id" := by
  cases k <;> rfl

theorem otherName_id (k : Kind) : ∀ f ∈ k.layout.fields, f.name = "id" → f.otherName = none := by
  cases k <;> decide

theorem eq_id_of_field? {key : String} {f : Field} (hf : k.layout.field? key = some f)
    (hname : f.name = "id") : key = "id" := by
  obtain ⟨hmem, hspells⟩ := Layout.spells_of_field? hf
  simpa [Field.spells, hname, k.otherName_id f hmem hname] using hspells

namespace Record

/-- The identifier of a record is the text among the fields it was made from. -/
theorem id_of_assemble {others : List (String × Json)} (h : assemble k others fields = .ok r) :
    Entity.id r = textOf (Keyed.get? "id" fields) := by
  cases k with
  | notificationGroup =>
      obtain ⟨recipients, -, hid⟩ := bind_eq_ok_iff.mp h
      obtain ⟨-, rfl⟩ := requireId_eq_ok_iff.mp hid
      rfl
  | alert | pagerDutyEndpoint | report =>
      obtain ⟨-, rfl⟩ := requireId_eq_ok_iff.mp h
      rfl

/-- **The identifier that was read is the text under `id`.** -/
theorem get?_id_of_decode (h : Entity.decode (.obj members) = .ok r) :
    Keyed.get? "id" members = some (.str (Entity.id r)) := by
  have hid := id_ne_empty_of_decode h
  rw [decode_obj, Layout.decodeWith, bind_eq_ok_iff] at h
  obtain ⟨fields, hread, hmake⟩ := h
  obtain ⟨rfl, -⟩ := Layout.readMembers_eq_ok_iff.mp (decoded_eq_ok_iff.mp hread)
  rw [id_of_assemble hmake, Layout.get?_given k.field?_id fun _ _ => eq_id_of_field?] at hid ⊢
  cases hget : Keyed.get? "id" members with
  | none => simp [hget, textOf] at hid
  | some w => cases w <;> simp_all [textOf]

end Record

end AlertDesk.Kind
