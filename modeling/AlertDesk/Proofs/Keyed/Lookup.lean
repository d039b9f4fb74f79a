import AlertDesk.Keyed
import Mathlib.Data.List.Nodup

/-!
# AlertDesk.Proofs.Keyed.Lookup

A list of pairs seen through `get?`.  Members, filters and merged lists are all
told by what they look up, and ascending lists by nothing else (`Ascending.ext`).

Where several pairs may share a key, the facts ask for a list in which none do;
ascending lists are such (`Ascending.nodup`).  In a list that is merged the last of
them counts (`get?_insertAll_reverse`).
-/

namespace AlertDesk

namespace Keyed

variable {β : Type} {k : String} {v : β} {l : List (String × β)}

/-! ## members -/

theorem get?_cons (p : String × β) : get? k (p :: l) = if k = p.1 then some p.2 else get? k l := rfl

theorem mem_of_get? (h : get? k l = some v) : (k, v) ∈ l := by
  induction l with
  | nil => contradiction
  | cons p l ih =>
      rw [get?_cons] at h
      split at h
      · next hk =>
          obtain rfl := Option.some.inj h
          simp [hk]
      · exact List.mem_cons_of_mem p (ih h)

theorem get?_eq_none_iff : get? k l = none ↔ k ∉ l.map Prod.fst := by
  induction l with
  | nil => simp
  | cons p l ih =>
      rw [get?_cons]
      by_cases hk : k = p.1
      · simp [hk]
      · simp [hk, ih]

/-- A key that stands there once looks up what stands with it. -/
theorem get?_of_mem (hl : (l.map Prod.fst).Nodup) (h : (k, v) ∈ l) : get? k l = some v := by
  induction l with
  | nil => contradiction
  | cons p l ih =>
      rw [List.map_cons, List.nodup_cons] at hl
      rw [get?_cons]
      obtain rfl | h := List.mem_cons.mp h
      · simp
      · have hk : k ≠ p.1 := fun hk => hl.1 (hk ▸ List.mem_map_of_mem (f := Prod.fst) h)
        rw [if_neg hk, ih hl.2 h]

theorem Ascending.nodup (h : Ascending l) : (l.map Prod.fst).Nodup := by
  refine List.pairwise_map.mpr (h.imp ?_)
  intro a b hlt heq
  exact String.lt_irrefl b.1 (heq ▸ hlt)

theorem Ascending.filter (h : Ascending l) (q : String × β → Bool) : Ascending (l.filter q) :=
  List.Pairwise.filter q h

/-! ## joined, filtered and merged lists -/

theorem get?_append (l₁ l₂ : List (String × β)) :
    get? k (l₁ ++ l₂) = (get? k l₁).or (get? k l₂) := by
  induction l₁ with
  | nil => rfl
  | cons p l₁ ih =>
      rw [List.cons_append, get?_cons, get?_cons]
      split
      · rw [Option.some_or]
      · exact ih

theorem get?_filter (q : String → Bool) :
    get? k (l.filter fun p => q p.1) = if q k then get? k l else none := by
  induction l with
  | nil => simp
  | cons p l ih =>
      by_cases hk : k = p.1
      · subst hk
        cases hq : q p.1 <;> simp [hq, get?_cons, ih]
      · cases hq : q p.1 <;> simp [hq, get?_cons, hk, ih]

/-- A merged list holds nothing but what was in one of the two. -/
theorem mem_insertAll {p : String × β} {into : List (String × β)} (h : p ∈ insertAll l into) :
    p ∈ l ∨ p ∈ into := by
  induction l generalizing into with
  | nil => exact .inr h
  | cons q l ih =>
      obtain h | h := ih h
      · exact .inl (List.mem_cons_of_mem q h)
      · obtain rfl | h := mem_insert h
        · exact .inl List.mem_cons_self
        · exact .inr h

theorem mem_ofList {p : String × β} (h : p ∈ ofList l) : p ∈ l :=
  (mem_insertAll h).resolve_right List.not_mem_nil

theorem get?_insert (k' : String) :
    get? k (insert k' v l) = if k = k' then some v else get? k l := by
  split
  · next hk => rw [hk, get?_insert_self]
  · next hk => rw [get?_insert_of_ne hk]

/-- Of the pairs that are written under a key, the last one is looked up. -/
theorem get?_insertAll_reverse (into : List (String × β)) :
    get? k (insertAll l into) = (get? k l.reverse).or (get? k into) := by
  induction l generalizing into with
  | nil => rfl
  | cons p l ih =>
      rw [show insertAll (p :: l) into = insertAll l (insert p.1 p.2 into) from rfl, ih,
        List.reverse_cons, get?_append, Option.or_assoc, get?_insert, get?_cons, get?_nil]
      split <;> simp

/-- A key holds what was written under it last. -/
theorem get?_ofList_reverse : get? k (ofList l) = get? k l.reverse := by
  rw [ofList, get?_insertAll_reverse, get?_nil, Option.or_none]

theorem get?_reverse (hl : (l.map Prod.fst).Nodup) : get? k l.reverse = get? k l := by
  have hreverse : (l.reverse.map Prod.fst).Nodup := by
    rwa [List.map_reverse, List.nodup_reverse]
  refine Option.ext fun v => ⟨fun h => ?_, fun h => ?_⟩
  · exact get?_of_mem hl (List.mem_reverse.mp (mem_of_get? h))
  · exact get?_of_mem hreverse (List.mem_reverse.mpr (mem_of_get? h))

/-- Of two lists merged, the one that is written last is looked up first. -/
theorem get?_insertAll (hl : (l.map Prod.fst).Nodup) (into : List (String × β)) :
    get? k (insertAll l into) = (get? k l).or (get? k into) := by
  rw [get?_insertAll_reverse, get?_reverse hl]

theorem get?_ofList (hl : (l.map Prod.fst).Nodup) : get? k (ofList l) = get? k l := by
  rw [get?_ofList_reverse, get?_reverse hl]

/-- **An ascending list is told by what it looks up.** -/
theorem Ascending.ext {a b : List (String × β)} (ha : Ascending a) (hb : Ascending b)
    (h : ∀ k, get? k a = get? k b) : a = b := by
  have hmem : ∀ p, p ∈ a ↔ p ∈ b := fun p =>
    ⟨fun hp => mem_of_get? (h p.1 ▸ get?_of_mem ha.nodup hp),
      fun hp => mem_of_get? ((h p.1).symm ▸ get?_of_mem hb.nodup hp)⟩
  have hperm : a.Perm b :=
    (List.perm_ext_iff_of_nodup ha.nodup.of_map hb.nodup.of_map).mpr hmem
  exact hperm.eq_of_pairwise (fun p q _ _ hpq hqp => absurd hpq (String.lt_asymm hqp)) ha hb

/-- Without the pairs whose value fails a test, a key that held such a value is missing. -/
theorem get?_filter_value (hl : (l.map Prod.fst).Nodup) (q : β → Bool) :
    get? k (l.filter fun p => q p.2) = (get? k l).filter q := by
  induction l with
  | nil => rfl
  | cons p l ih =>
      rw [List.map_cons, List.nodup_cons] at hl
      by_cases hk : k = p.1
      · subst hk
        have hrest : get? p.1 l = none := get?_eq_none_iff.mpr hl.1
        cases hq : q p.2 <;> simp [hq, get?_cons, ih hl.2, hrest, Option.filter_some]
      · cases hq : q p.2 <;> simp [hq, get?_cons, ih hl.2, hk]

/-! ## changed values -/

theorem insert_map {α : Type} (f : α → β) (k : String) (v : α) (into : List (String × α)) :
    insert k (f v) (into.map (Prod.map id f)) = (insert k v into).map (Prod.map id f) := by
  induction into with
  | nil => rfl
  | cons p into ih =>
      simp only [List.map_cons, insert, Prod.map_fst, Prod.map_snd, id_eq]
      split
      · rfl
      · split
        · rfl
        · rw [ih]
          rfl

theorem insertAll_map {α : Type} (f : α → β) (ps into : List (String × α)) :
    insertAll (ps.map (Prod.map id f)) (into.map (Prod.map id f)) =
      (insertAll ps into).map (Prod.map id f) := by
  induction ps generalizing into with
  | nil => rfl
  | cons p ps ih =>
      calc insertAll ((p :: ps).map (Prod.map id f)) (into.map (Prod.map id f))
        _ = insertAll (ps.map (Prod.map id f)) (insert p.1 (f p.2) (into.map (Prod.map id f))) := rfl
        _ = (insertAll (p :: ps) into).map (Prod.map id f) := by
          rw [insert_map, ih]
          rfl

/-- Values may be changed before pairs are merged, or afterwards. -/
theorem ofList_map {α : Type} (f : α → β) (ps : List (String × α)) :
    ofList (ps.map (Prod.map id f)) = (ofList ps).map (Prod.map id f) :=
  insertAll_map f ps []

end Keyed

namespace Dict

variable {β : Type}

/-- A map is told by what it looks up. -/
theorem ext_get? {a b : Dict β} (h : ∀ k, a.get? k = b.get? k) : a = b :=
  ext (a.ascending.ext b.ascending h)

theorem get?_ofList {l : List (String × β)} (hl : (l.map Prod.fst).Nodup) (k : String) :
    (ofList l).get? k = Keyed.get? k l :=
  Keyed.get?_ofList hl

end Dict

end AlertDesk
