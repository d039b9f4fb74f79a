import AlertDesk.Proofs.Layout.Format
import AlertDesk.Proofs.Record.Faults
import AlertDesk.Proofs.Record.Identifier

/-!
# AlertDesk.Proofs.Record.Format

Decoders against the formats of their record types.  A decoder matches the value
against the layout and makes a record of the fields; the record is one of what
the value holds for them.  A value that does not follow the format is refused
before anything is made of it.

Main facts:

* `Layout.Apart.decode_eq_ok_iff` — what is decoded, if it has an identifier and
  nothing else can go wrong;
* `Layout.Apart.decode_of_not_follows` — what does not follow the format is a
  decode error.
-/

namespace AlertDesk

/-! ## what the checks let through -/

namespace Json

/-- Null or a string. -/
def TextOrNull (v : Json) : Prop := v = .null ∨ ∃ s, v = .str s

/-- Null or an array. -/
def ListOrNull (v : Json) : Prop := v = .null ∨ ∃ items, v = .arr items

end Json

theorem checkText_eq_ok_iff {v : Json} : checkText v = .ok () ↔ v.TextOrNull := by
  cases v <;> simp [checkText, Json.TextOrNull]

theorem checkList_eq_ok_iff {v : Json} : checkList v = .ok () ↔ v.ListOrNull := by
  cases v <;> simp [checkList, Json.ListOrNull]

/-- A format of nothing but texts. -/
def textFormat (keys : List (List String)) : List Slot :=
  keys.map fun keys => { keys, takes := Json.TextOrNull }

/-! ## decoders -/

namespace Layout

variable {l : Layout} {v : Json} {members : List (String × Json)} {α : Type} {kind : Kind}
  {id : α → String} {make : List (String × Json) → α} {r r' : α}

theorem format_of_texts (h : ∀ f ∈ l.fields, f.check = checkText) :
    l.format = textFormat (l.fields.map Field.keys) := by
  rw [format, textFormat, List.map_map]
  refine List.map_congr_left fun f hf => ?_
  have htakes : (fun w => f.check w = .ok ()) = Json.TextOrNull := by
    rw [h f hf]
    exact funext fun w => propext checkText_eq_ok_iff
  rw [Function.comp_apply, htakes]

/-- **What is decoded.**  The record is the one of what the value holds, if the
value follows the format and there is an identifier. -/
theorem Apart.decode_eq_ok_iff (h : l.Apart)
    (hmake : ∀ fields, l.read v = .ok fields → make fields = r') :
    (decoded (l.read v) >>= fun fields => requireId kind id (make fields)) = .ok r ↔
      v.Follows l.format ∧ id r' ≠ "" ∧ r = r' := by
  simp only [bind_eq_ok_iff, decoded_eq_ok_iff, ← h.read_eq_ok_iff]
  constructor
  · rintro ⟨fields, hread, hid⟩
    rw [hmake fields hread, requireId_eq_ok_iff] at hid
    exact ⟨⟨fields, hread⟩, hid.1, hid.2.symm⟩
  · rintro ⟨⟨fields, hread⟩, hid, rfl⟩
    refine ⟨fields, hread, ?_⟩
    rw [hmake fields hread]
    exact requireId_eq_ok_iff.mpr ⟨hid, rfl⟩

/-- **What does not follow the format is a decode error**, whatever would have been
made of it. -/
theorem Apart.decode_of_not_follows {make : List (String × Json) → Except PortalError α}
    (h : l.Apart) (hv : ¬ v.Follows l.format) :
    ∃ reason, (decoded (l.read v) >>= make) = .error (.decode reason) := by
  cases hread : l.read v with
  | ok fields => exact absurd (h.read_eq_ok_iff.mp ⟨fields, hread⟩) hv
  | error m => exact ⟨m.message, rfl⟩

/-- Members that belong to no field are without influence. -/
theorem read_filter (l : Layout) (members : List (String × Json)) :
    l.read (.obj (members.filter fun p => p.1 ∈ (l.fields.map Field.keys).flatten)) =
      l.read (.obj members) := by
  have howns : (fun p : String × Json => decide (p.1 ∈ (l.fields.map Field.keys).flatten)) =
      fun p => l.owns p.1 := by
    funext p
    rw [← List.flatMap_def, Bool.eq_iff_iff, owns_iff, decide_eq_true_eq]
  rw [howns]
  exact readMembers_filter l [] members

end Layout

end AlertDesk
