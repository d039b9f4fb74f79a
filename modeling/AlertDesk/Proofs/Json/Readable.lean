import AlertDesk.Proofs.Json.Number
import AlertDesk.Proofs.Keyed.Lookup

/-!
# AlertDesk.Proofs.Json.Readable

What a JSON text can stand for.  The reader has limits: it nests containers no
deeper than 127 levels, it keeps the members of an object ascending, and its
integers fit a 64-bit word.  Every value that it reads is within them
(`Readable`).

Main fact: `readable_of_readChars`.
-/

namespace AlertDesk.Json

/-! ## limits -/

/-- A value that a text can stand for, its containers nested no deeper than `depth`. -/
def Readable : (depth : Nat) → Json → Prop
  | _, .null | _, .bool _ | _, .str _ => True
  | _, .num x => x.InRange
  | 0, .arr _ | 0, .obj _ => False
  | depth + 1, .arr items => ∀ v ∈ items, Readable depth v
  | depth + 1, .obj members => Keyed.Ascending members ∧ ∀ p ∈ members, Readable depth p.2

@[simp] theorem readable_null (depth : Nat) : Readable depth .null := by
  cases depth <;> trivial

@[simp] theorem readable_bool (depth : Nat) (b : Bool) : Readable depth (.bool b) := by
  cases depth <;> trivial

@[simp] theorem readable_str (depth : Nat) (s : String) : Readable depth (.str s) := by
  cases depth <;> trivial

@[simp] theorem readable_num (depth : Nat) (x : Number) : Readable depth (.num x) ↔ x.InRange := by
  cases depth <;> exact Iff.rfl

/-! ## what is read -/

section

variable {P : Json → Prop} {reader : ValueReader} {fuel : Nat} {r rest : List Char}

/-- What holds of every value that is read holds of every item of a list. -/
theorem forall_of_items (hread : ∀ r v rest, reader r = .ok (v, rest) → P v) {acc vs : List Json}
    (hacc : ∀ v ∈ acc, P v) (h : items reader fuel acc r = .ok (vs, rest)) : ∀ v ∈ vs, P v := by
  induction fuel generalizing acc r with
  | zero => contradiction
  | succ fuel ih =>
      simp only [items] at h
      split at h
      · contradiction
      · obtain rfl := congrArg Prod.fst (Except.ok.inj h)
        exact hacc
      · split at h
        · obtain ⟨⟨v, rest'⟩, hv, h⟩ := bind_eq_ok_iff.mp h
          exact ih (by simpa using hread _ _ _ hv) h
        · split at h
          · split at h
            · contradiction
            · contradiction
            · obtain ⟨⟨v, rest'⟩, hv, h⟩ := bind_eq_ok_iff.mp h
              exact ih (List.forall_mem_cons.mpr ⟨hread _ _ _ hv, hacc⟩) h
          · contradiction

theorem of_member (hread : ∀ r v rest, reader r = .ok (v, rest) → P v) {p : String × Json}
    (h : member reader r = .ok (p, rest)) : P p.2 := by
  obtain ⟨⟨k, r'⟩, -, h⟩ := bind_eq_ok_iff.mp h
  dsimp only at h
  split at h
  · contradiction
  · obtain ⟨⟨v, rest'⟩, hv, h⟩ := bind_eq_ok_iff.mp h
    obtain rfl := congrArg Prod.fst (Except.ok.inj h)
    exact hread _ _ _ hv
  · contradiction

/-- What holds of every value that is read holds of every member of an object. -/
theorem forall_of_members (hread : ∀ r v rest, reader r = .ok (v, rest) → P v)
    {acc ps : List (String × Json)} (hacc : ∀ p ∈ acc, P p.2)
    (h : members reader fuel acc r = .ok (ps, rest)) : ∀ p ∈ ps, P p.2 := by
  induction fuel generalizing acc r with
  | zero => contradiction
  | succ fuel ih =>
      simp only [members] at h
      split at h
      · contradiction
      · obtain rfl := congrArg Prod.fst (Except.ok.inj h)
        exact hacc
      · split at h
        · split at h
          · obtain ⟨⟨p, rest'⟩, hp, h⟩ := bind_eq_ok_iff.mp h
            exact ih (by simpa using of_member hread hp) h
          · contradiction
        · split at h
          · split at h
            · contradiction
            · obtain ⟨⟨p, rest'⟩, hp, h⟩ := bind_eq_ok_iff.mp h
              exact ih (List.forall_mem_cons.mpr ⟨of_member hread hp, hacc⟩) h
            · contradiction
            · contradiction
          · contradiction

end

/-- **What is read is within the limits.** -/
theorem readable_of_value {depth : Nat} {r rest : List Char} {v : Json}
    (h : value (depth + 1) r = .ok (v, rest)) : Readable depth v := by
  induction depth using Nat.strongRecOn generalizing r rest v with
  | ind depth ih =>
      rw [value] at h
      split at h
      · contradiction
      · obtain ⟨r', -, h⟩ := bind_eq_ok_iff.mp h
        obtain rfl := congrArg Prod.fst (Except.ok.inj h)
        exact readable_null depth
      · obtain ⟨r', -, h⟩ := bind_eq_ok_iff.mp h
        obtain rfl := congrArg Prod.fst (Except.ok.inj h)
        exact readable_bool depth _
      · obtain ⟨r', -, h⟩ := bind_eq_ok_iff.mp h
        obtain rfl := congrArg Prod.fst (Except.ok.inj h)
        exact readable_bool depth _
      · obtain ⟨⟨x, r'⟩, hx, h⟩ := bind_eq_ok_iff.mp h
        obtain rfl := congrArg Prod.fst (Except.ok.inj h)
        exact (readable_num depth x).mpr (inRange_of_number hx)
      · obtain ⟨⟨s, r'⟩, -, h⟩ := bind_eq_ok_iff.mp h
        obtain rfl := congrArg Prod.fst (Except.ok.inj h)
        exact readable_str depth s
      · split at h
        · contradiction
        · next hdepth =>
            obtain ⟨depth, rfl⟩ := Nat.exists_eq_add_one_of_ne_zero hdepth
            obtain ⟨⟨vs, r'⟩, hvs, h⟩ := bind_eq_ok_iff.mp h
            obtain rfl := congrArg Prod.fst (Except.ok.inj h)
            have hall := forall_of_items (P := Readable depth)
              (fun _ _ _ => ih depth (Nat.lt_succ_self depth)) (by simp) hvs
            simpa [Readable] using hall
      · split at h
        · contradiction
        · next hdepth =>
            obtain ⟨depth, rfl⟩ := Nat.exists_eq_add_one_of_ne_zero hdepth
            obtain ⟨⟨ps, r'⟩, hps, h⟩ := bind_eq_ok_iff.mp h
            obtain rfl := congrArg Prod.fst (Except.ok.inj h)
            have hall := forall_of_members (P := Readable depth)
              (fun _ _ _ => ih depth (Nat.lt_succ_self depth)) (by simp) hps
            refine ⟨Keyed.ascending_ofList _, fun p hp => hall p ?_⟩
            exact List.mem_reverse.mp (Keyed.mem_ofList hp)
      · split at h
        · obtain ⟨⟨x, r'⟩, hx, h⟩ := bind_eq_ok_iff.mp h
          obtain rfl := congrArg Prod.fst (Except.ok.inj h)
          exact (readable_num depth x).mpr (inRange_of_number hx)
        · contradiction

/-- **What a text stands for** is within the limits. -/
theorem readable_of_readChars {cs : List Char} {v : Json} (h : readChars cs = .ok v) :
    Readable 127 v := by
  obtain ⟨⟨w, rest⟩, hvalue, h⟩ := bind_eq_ok_iff.mp h
  dsimp only at h
  split at h
  · obtain rfl := Except.ok.inj h
    exact readable_of_value hvalue
  · contradiction

end AlertDesk.Json
