import AlertDesk.Layout
import AlertDesk.Proofs.Chain
import AlertDesk.Proofs.Keyed.Lookup

/-!
# AlertDesk.Proofs.Layout.Members

What matching an object against the fields of a record type gives.  Apart from
the order in which faults are met, it is no loop: the members that are fields
are taken over under the fields' own names (`given`), if each holds what its
field may hold and no field is given twice (`Fits`).

Main facts:

* `readMembers_eq_ok_iff` — what is read, and when;
* `given_of_plain` — a layout without second spellings takes over the members
  that it owns as they are.
-/

namespace AlertDesk

namespace Layout

variable {l : Layout} {members fields : List (String × Json)} {seen : List String}
  {key : String} {v : Json} {f : Field}

/-! ## fields and their keys -/

theorem spells_of_field? (h : l.field? key = some f) : f ∈ l.fields ∧ f.spells key = true :=
  ⟨List.mem_of_find?_eq_some h, by simpa using List.find?_some h⟩

/-- The members that are fields, each under its field's own name. -/
def given (l : Layout) (members : List (String × Json)) : List (String × Json) :=
  members.filterMap fun p => (l.field? p.1).map fun f => (f.name, p.2)

@[simp] theorem given_nil : l.given [] = [] := rfl

theorem given_cons_of_none (h : l.field? key = none) (members : List (String × Json)) :
    l.given ((key, v) :: members) = l.given members := by
  simp [given, h]

theorem given_cons_of_some (h : l.field? key = some f) (members : List (String × Json)) :
    l.given ((key, v) :: members) = (f.name, v) :: l.given members := by
  simp [given, h]

/-- The members fit the fields: each holds what its field may hold, and no field
is given twice. -/
structure Fits (l : Layout) (members : List (String × Json)) : Prop where
  checked : ∀ key v, (key, v) ∈ members → ∀ f, l.field? key = some f → f.check v = .ok ()
  once : ((l.given members).map Prod.fst).Nodup

theorem fits_nil : l.Fits [] where
  checked := by simp
  once := by simp

theorem fits_cons_of_none (h : l.field? key = none) :
    l.Fits ((key, v) :: members) ↔ l.Fits members := by
  constructor
  · rintro ⟨checked, once⟩
    rw [given_cons_of_none h] at once
    exact ⟨fun k w hmem => checked k w (List.mem_cons_of_mem _ hmem), once⟩
  · rintro ⟨checked, once⟩
    refine ⟨fun k w hmem f hf => ?_, by rwa [given_cons_of_none h]⟩
    obtain heq | hmem := List.mem_cons.mp hmem
    · rw [(Prod.mk.inj heq).1, h] at hf
      contradiction
    · exact checked k w hmem f hf

theorem fits_cons_of_some (h : l.field? key = some f) :
    l.Fits ((key, v) :: members) ↔ f.check v = .ok () ∧ l.Fits members ∧
      f.name ∉ (l.given members).map Prod.fst := by
  constructor
  · rintro ⟨checked, once⟩
    rw [given_cons_of_some h, List.map_cons, List.nodup_cons] at once
    exact ⟨checked key v List.mem_cons_self f h,
      ⟨fun k w hmem => checked k w (List.mem_cons_of_mem _ hmem), once.2⟩, once.1⟩
  · rintro ⟨hcheck, ⟨checked, once⟩, hnew⟩
    constructor
    · intro k w hmem f' hf'
      obtain heq | hmem := List.mem_cons.mp hmem
      · obtain ⟨rfl, rfl⟩ := Prod.mk.inj heq
        rwa [Option.some.inj (hf'.symm.trans h)]
      · exact checked k w hmem f' hf'
    · rw [given_cons_of_some h, List.map_cons, List.nodup_cons]
      exact ⟨hnew, once⟩

/-! ## what is read -/

theorem readMembers_cons_of_none (h : l.field? key = none) :
    l.readMembers seen ((key, v) :: members) = l.readMembers seen members := by
  rw [readMembers, h]

theorem readMembers_cons_of_seen (h : l.field? key = some f) (hseen : f.name ∈ seen) :
    l.readMembers seen ((key, v) :: members) = .error (.duplicateField f.name) := by
  rw [readMembers, h]
  exact if_pos hseen

theorem readMembers_cons_of_new (h : l.field? key = some f) (hseen : f.name ∉ seen) :
    l.readMembers seen ((key, v) :: members) = (do
      f.check v
      let rest ← l.readMembers (f.name :: seen) members
      return (f.name, v) :: rest) := by
  rw [readMembers, h]
  exact if_neg hseen

/-- Behind fields that were met before: none of them may be given again. -/
theorem readMembers_seen_eq_ok_iff : l.readMembers seen members = .ok fields ↔
    fields = l.given members ∧ l.Fits members ∧
      ∀ name ∈ seen, name ∉ (l.given members).map Prod.fst := by
  induction members generalizing seen fields with
  | nil => simp [readMembers, fits_nil, eq_comm]
  | cons p members ih =>
      obtain ⟨key, v⟩ := p
      cases hf : l.field? key with
      | none => rw [readMembers_cons_of_none hf, ih, given_cons_of_none hf, fits_cons_of_none hf]
      | some f =>
          rw [given_cons_of_some hf, fits_cons_of_some hf]
          by_cases hseen : f.name ∈ seen
          · rw [readMembers_cons_of_seen hf hseen]
            simp only [reduceCtorEq, false_iff]
            rintro ⟨-, -, hnone⟩
            exact hnone f.name hseen (by simp)
          · rw [readMembers_cons_of_new hf hseen, bind_eq_ok_iff]
            simp only [bind_eq_ok_iff, ih]
            constructor
            · rintro ⟨⟨⟩, hcheck, rest, ⟨rfl, hfits, hnew⟩, heq⟩
              obtain rfl := Except.ok.inj heq
              refine ⟨rfl, ⟨hcheck, hfits, hnew f.name List.mem_cons_self⟩, fun name hname => ?_⟩
              have hne : name ≠ f.name := fun h => hseen (h ▸ hname)
              simpa [hne] using hnew name (List.mem_cons_of_mem _ hname)
            · rintro ⟨rfl, ⟨hcheck, hfits, hnew⟩, hnone⟩
              refine ⟨(), hcheck, l.given members, ⟨rfl, hfits, fun name hname => ?_⟩, rfl⟩
              obtain rfl | hname := List.mem_cons.mp hname
              · exact hnew
              · exact fun hmem => hnone name hname (List.mem_cons_of_mem _ hmem)

/-- **What is read of an object, and when.** -/
theorem readMembers_eq_ok_iff :
    l.readMembers [] members = .ok fields ↔ fields = l.given members ∧ l.Fits members := by
  simp [readMembers_seen_eq_ok_iff]

/-- Under the name of a field that no other key spells, what was given is what stood there. -/
theorem get?_given {name : String} (hname : (l.field? name).map Field.name = some name)
    (halone : ∀ key f, l.field? key = some f → f.name = name → key = name) :
    Keyed.get? name (l.given members) = Keyed.get? name members := by
  induction members with
  | nil => rfl
  | cons p members ih =>
      obtain ⟨key, v⟩ := p
      by_cases hkey : name = key
      · obtain ⟨f, hf, rfl⟩ := Option.map_eq_some_iff.mp hname
        rw [given_cons_of_some (hkey ▸ hf)]
        simp [Keyed.get?, hkey]
      · rw [Keyed.get?, if_neg hkey, ← ih]
        cases hf : l.field? key with
        | none => rw [given_cons_of_none hf]
        | some f =>
            rw [given_cons_of_some hf, Keyed.get?, if_neg]
            exact fun heq => hkey (halone key f hf heq.symm).symm

/-- The members that are no field are kept under their keys. -/
theorem get?_others (h : Keyed.Ascending members) (key : String) :
    (Dict.ofList (l.others (.obj members))).get? key =
      if l.owns key then none else Keyed.get? key members := by
  have hothers := h.filter fun p => !l.owns p.1
  rw [others, Dict.get?_ofList hothers.nodup, Keyed.get?_filter fun key => !l.owns key]
  cases l.owns key <;> rfl

/-! ## layouts without second spellings -/

/-- No field has a second spelling. -/
def Plain (l : Layout) : Prop := ∀ f ∈ l.fields, f.otherName = none

instance : Decidable l.Plain := inferInstanceAs (Decidable (∀ f ∈ l.fields, f.otherName = none))

theorem Plain.name_eq (h : l.Plain) (hf : l.field? key = some f) : f.name = key := by
  obtain ⟨hmem, hspells⟩ := spells_of_field? hf
  simpa [Field.spells, h f hmem, eq_comm] using hspells

/-- **The members that a plain layout owns are taken over as they are.** -/
theorem given_of_plain (h : l.Plain) : l.given members = members.filter fun p => l.owns p.1 := by
  induction members with
  | nil => rfl
  | cons p members ih =>
      obtain ⟨key, v⟩ := p
      cases hf : l.field? key with
      | none => simp [given_cons_of_none hf, owns, hf, ih]
      | some f => simp [given_cons_of_some hf, owns, hf, ih, h.name_eq hf]

theorem get?_given_of_plain (h : l.Plain) (hkey : l.owns key = true) :
    Keyed.get? key (l.given members) = Keyed.get? key members := by
  rw [given_of_plain h, Keyed.get?_filter, if_pos hkey]

theorem once_of_plain (h : l.Plain) (hm : (members.map Prod.fst).Nodup) :
    ((l.given members).map Prod.fst).Nodup := by
  rw [given_of_plain h]
  exact hm.sublist (List.filter_sublist.map Prod.fst)

end Layout

end AlertDesk
