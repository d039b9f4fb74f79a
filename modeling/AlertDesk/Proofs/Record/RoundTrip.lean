import AlertDesk.Proofs.Record.Identifier

/-!
# AlertDesk.Proofs.Record.RoundTrip

Reading a record that was written gives it back.  Of the written record no
member is lost on the way, whatever the fields hold; the only thing that can
be wrong with it is its identifier.  Records that are fit to be written
(`Sound`) are those that can have been read.

Main fact: `decode_encode_iff_sound` — a record reads back from what it was
written as if and only if it is sound, and every record that was read is.
-/

namespace AlertDesk

/-! ## one record type at a time -/

theorem Alert.decode_encode (a : Alert) : decode (encode a) = requireId .alert Alert.id a := rfl

theorem PagerDutyEndpoint.decode_encode (e : PagerDutyEndpoint) :
    decode (encode e) = requireId .pagerDutyEndpoint PagerDutyEndpoint.id e := rfl

theorem Recipient.decode_encode (r : Recipient) : decode (encode r) = .ok r := by
  cases r <;> rfl

/-- The recipients read back in their order. -/
theorem Recipient.mapM_decode_encode (rs : List Recipient) :
    (rs.map encode).mapM decode = Except.ok rs := by
  have hdecode : decode ∘ encode = fun r => pure r := funext decode_encode
  rw [List.mapM_map, hdecode, List.mapM_pure, List.map_id']
  rfl

theorem NotificationGroup.decode_encode (g : NotificationGroup) :
    decode (encode g) = requireId .notificationGroup NotificationGroup.id g := by
  change (g.recipients.map Recipient.encode).mapM Recipient.decode >>= _ = _
  rw [Recipient.mapM_decode_encode]
  rfl

namespace Report

/-- The members of a written report. -/
def members (r : Report) : List (String × Json) :=
  Keyed.insertAll r.fields.entries [("id", .str r.id)]

variable {r : Report}

theorem ascending_members (r : Report) : Keyed.Ascending r.members :=
  Keyed.Ascending.insertAll (List.pairwise_singleton _ _) _

theorem get?_members (r : Report) (key : String) :
    Keyed.get? key r.members = (r.fields.get? key).or (if key = "id" then some (.str r.id) else none) :=
  Keyed.get?_insertAll r.fields.ascending.nodup _

theorem owns_iff (key : String) : layout.owns key = true ↔ key = "id" := by
  simp [Layout.owns, Layout.field?, layout, Field.spells]

/-- An object with a text under `id` fits, whatever its other members are. -/
theorem layout_fits {members : List (String × Json)} {id : String} (h : Keyed.Ascending members)
    (hid : Keyed.get? "id" members = some (.str id)) : layout.Fits members where
  checked := fun key v hmem f hf => by
    have hkey : key = "id" := (owns_iff key).mp (by simp [Layout.owns, hf])
    have hv := Keyed.get?_of_mem h.nodup hmem
    rw [hkey, hid, Option.some.injEq] at hv
    obtain ⟨hfield, -⟩ := Layout.spells_of_field? hf
    obtain rfl := List.mem_singleton.mp hfield
    rw [← hv]
    rfl
  once := Layout.once_of_plain layout_plain h.nodup

/-- What is read of an object with a text under `id`. -/
theorem decode_obj {members : List (String × Json)} {id : String} (h : Keyed.Ascending members)
    (hid : Keyed.get? "id" members = some (.str id)) :
    decode (.obj members) = requireId .report Report.id
      { id, fields := Dict.ofList (layout.others (.obj members)) } := by
  have hread : layout.readObject (.obj members) = .ok (layout.given members) :=
    Layout.readMembers_eq_ok_iff.mpr ⟨rfl, layout_fits h hid⟩
  have hgiven : Keyed.get? "id" (layout.given members) = some (.str id) := by
    rw [Layout.get?_given_of_plain layout_plain rfl, hid]
  rw [decode, hread]
  change requireId .report Report.id
    { id := textOf (Keyed.get? "id" (layout.given members))
      fields := Dict.ofList (layout.others (.obj members)) } = _
  rw [hgiven]
  rfl

/-- The other members come back as they were. -/
theorem others_members (h : r.fields.get? "id" = none) :
    Dict.ofList (layout.others (.obj r.members)) = r.fields := by
  refine Dict.ext_get? fun key => ?_
  rw [Layout.get?_others (ascending_members r), get?_members]
  by_cases hkey : key = "id"
  · rw [if_pos ((owns_iff key).mpr hkey), hkey, h]
  · rw [if_neg (mt (owns_iff key).mp hkey), if_neg hkey, Option.or_none]

theorem decode_encode (h : r.fields.get? "id" = none) :
    decode (encode r) = requireId .report Report.id r := by
  have hid : Keyed.get? "id" r.members = some (.str r.id) := by
    rw [get?_members, h]
    rfl
  change decode (.obj r.members) = _
  rw [decode_obj (ascending_members r) hid, others_members h]

end Report

/-! ## every record type -/

namespace Kind.Record

variable {k : Kind}

/-- A record that can have been read: it has an identifier, and nothing stands in
front of it. -/
def Sound (r : k.Record) : Prop := Entity.id r ≠ "" ∧ shadowId? k r = none

theorem sound_of_decode {v : Json} {r : k.Record} (h : Entity.decode v = .ok r) : Sound r :=
  ⟨id_ne_empty_of_decode h, shadowId?_of_decode h⟩

/-- Of a written record nothing is lost but what stands in front of its identifier. -/
theorem decode_encode {r : k.Record} (h : shadowId? k r = none) :
    Entity.decode (Entity.encode r) = requireId k Entity.id r := by
  cases k with
  | alert => exact Alert.decode_encode r
  | notificationGroup => exact NotificationGroup.decode_encode r
  | pagerDutyEndpoint => exact PagerDutyEndpoint.decode_encode r
  | report => exact Report.decode_encode h

/-- **Reading undoes writing.**  A record of any kind reads back from what it was
written as, with every field and every recipient, if and only if it is sound;
and every record that was read from anything is sound. -/
theorem decode_encode_iff_sound (k : Kind) :
    (∀ r : k.Record, Entity.decode (Entity.encode r) = .ok r ↔ Sound r) ∧
    ∀ (v : Json) (r : k.Record), Entity.decode v = .ok r →
      Sound r ∧ Entity.decode (Entity.encode r) = .ok r := by
  have hback : ∀ r : k.Record, Sound r → Entity.decode (Entity.encode r) = .ok r :=
    fun r h => (decode_encode h.2).trans (requireId_eq_ok_iff.mpr ⟨h.1, rfl⟩)
  refine ⟨fun r => ⟨sound_of_decode, hback r⟩, fun v r h => ?_⟩
  exact ⟨sound_of_decode h, hback r (sound_of_decode h)⟩

/-- A group that was read from an older payload, with one recipient of each type,
reads back from what it is written as. -/
theorem decode_encode_iff_sound_group :
    let v : Json := .obj [("entries", .arr [
        .obj [("pagerDutyEndpointName", .str "primary"), ("type", .str "pagerduty")],
        .obj [("address", .str "b@x.com"), ("extra", .null), ("type", .str "email")],
        .obj [("address", .str "http://z"), ("type", .str "webhook")]]),
      ("id", .str "g1"), ("name", .null)]
    let g : Kind.notificationGroup.Record := NotificationGroup.mk "g1" ""
      [.pagerDuty "primary", .email "b@x.com", .webHook "http://z"]
    Entity.decode v = .ok g ∧ Sound g ∧ Entity.decode (Entity.encode g) = .ok g := by
  intro v g
  have hread : Entity.decode v = .ok g := rfl
  exact ⟨hread, (decode_encode_iff_sound .notificationGroup).2 v g hread⟩

/-- What stands in front of an identifier is read in its place. -/
example : Report.decode (Report.encode { id := "a", fields := Dict.empty.insert "id" (.str "b") }) =
    .ok { id := "b" } := rfl

end Kind.Record

end AlertDesk
