/-!
# AlertDesk.Proofs.Chain

Chains of steps that can fail, and steps that are taken on every element of a
list: these succeed if each of them does, and fail as the first that fails.
-/

namespace AlertDesk

/-- A chain of two steps succeeds if both do. -/
theorem bind_eq_ok_iff {ε α β : Type} {x : Except ε α} {f : α → Except ε β} {b : β} :
    (x >>= f) = .ok b ↔ ∃ a, x = .ok a ∧ f a = .ok b := by
  cases x <;> simp [bind, Except.bind]

/-- A chain of two steps fails where one of them does. -/
theorem bind_eq_error_iff {ε α β : Type} {x : Except ε α} {f : α → Except ε β} {e : ε} :
    (x >>= f) = .error e ↔ x = .error e ∨ ∃ a, x = .ok a ∧ f a = .error e := by
  cases x <;> simp [bind, Except.bind]

/-- What stands behind a check succeeds if nothing is wrong. -/
theorem check_eq_ok_iff {ε α β : Type} {wrong : Prop} [Decidable wrong] {e : ε}
    {x : Except ε α} {a : α} :
    (if wrong then (throw e : Except ε β) >>= fun _ => x else x) = .ok a ↔ ¬ wrong ∧ x = .ok a := by
  by_cases h : wrong
  · simp [h, bind, Except.bind, throw, throwThe, MonadExceptOf.throw]
  · simp [h]

/-- What comes to a value succeeds with it. -/
theorem eq_ok_of_toOption {ε α : Type} {x : Except ε α} {a : α} (h : x.toOption = some a) :
    x = .ok a := by
  cases x with
  | error e => simp [Except.toOption] at h
  | ok b => simpa [Except.toOption] using h

/-! ## a step on every element -/

/-- A step that is taken on every element succeeds if it does on each, and gives
what it gives there, in order. -/
theorem mapM_eq_ok_iff {ε α β : Type} {f : α → Except ε β} {as : List α} {bs : List β} :
    as.mapM f = .ok bs ↔ as.map f = bs.map .ok := by
  induction as generalizing bs with
  | nil => cases bs <;> simp [pure, Except.pure]
  | cons a as ih =>
      rw [List.mapM_cons, bind_eq_ok_iff]
      constructor
      · rintro ⟨b, hb, hrest⟩
        obtain ⟨bs', hbs, hcons⟩ := bind_eq_ok_iff.mp hrest
        obtain rfl : b :: bs' = bs := Except.ok.inj hcons
        rw [List.map_cons, List.map_cons, hb, ih.mp hbs]
      · intro h
        cases bs with
        | nil => contradiction
        | cons b bs =>
            rw [List.map_cons, List.map_cons, List.cons_eq_cons] at h
            exact ⟨b, h.1, bind_eq_ok_iff.mpr ⟨bs, ih.mpr h.2, rfl⟩⟩

/-- It fails as it does on the first element on which it fails. -/
theorem mapM_eq_error_iff {ε α β : Type} {f : α → Except ε β} {as : List α} {e : ε} :
    as.mapM f = .error e ↔ ∃ before a after, as = before ++ a :: after ∧
      (∀ b ∈ before, ∃ c, f b = .ok c) ∧ f a = .error e := by
  induction as with
  | nil => simp [pure, Except.pure]
  | cons a as ih =>
      rw [List.mapM_cons, bind_eq_error_iff]
      constructor
      · rintro (ha | ⟨b, hb, hrest⟩)
        · exact ⟨[], a, as, rfl, by simp, ha⟩
        · obtain hrest | ⟨bs, -, hcons⟩ := bind_eq_error_iff.mp hrest
          · obtain ⟨before, x, after, rfl, hbefore, hx⟩ := ih.mp hrest
            exact ⟨a :: before, x, after, rfl, List.forall_mem_cons.mpr ⟨⟨b, hb⟩, hbefore⟩, hx⟩
          · contradiction
      · rintro ⟨before, x, after, h, hbefore, hx⟩
        cases before with
        | nil =>
            obtain ⟨rfl, rfl⟩ := List.cons_eq_cons.mp h
            exact .inl hx
        | cons b before =>
            obtain ⟨rfl, rfl⟩ := List.cons_eq_cons.mp h
            obtain ⟨⟨c, hc⟩, hrest⟩ := List.forall_mem_cons.mp hbefore
            have hfails := ih.mpr ⟨before, x, after, rfl, hrest, hx⟩
            exact .inr ⟨c, hc, bind_eq_error_iff.mpr (.inl hfails)⟩

/-- It succeeds if the step does on each element. -/
theorem exists_mapM_eq_ok_iff {ε α β : Type} {f : α → Except ε β} {as : List α} :
    (∃ bs, as.mapM f = .ok bs) ↔ ∀ a ∈ as, ∃ b, f a = .ok b := by
  constructor
  · rintro ⟨bs, hbs⟩ a ha
    have hmem : f a ∈ bs.map Except.ok := mapM_eq_ok_iff.mp hbs ▸ List.mem_map_of_mem ha
    obtain ⟨b, -, hb⟩ := List.mem_map.mp hmem
    exact ⟨b, hb.symm⟩
  · intro h
    cases hmap : as.mapM f with
    | ok bs => exact ⟨bs, rfl⟩
    | error e =>
        obtain ⟨before, a, after, rfl, -, ha⟩ := mapM_eq_error_iff.mp hmap
        obtain ⟨b, hb⟩ := h a (by simp)
        rw [ha] at hb
        contradiction

end AlertDesk
