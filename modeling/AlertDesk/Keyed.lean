/-!
# AlertDesk.Keyed

Maps from text to values, kept as association lists in strictly ascending key
order (code points, the order of UTF-8 bytes).  The order is part of what the
program shows: every object it writes lists its members this way.

`Keyed` holds the list operations, `Dict` bundles a list with the proof that it
is ascending.

Main facts:

* `get?_insert_self`, `get?_insert_of_ne`: a written key reads back, every other
  key is left alone;
* `Ascending.insert`: writing keeps the order;
* `ofList_eq_self`: an ascending list is its own normal form.
-/

namespace AlertDesk

namespace Keyed

variable {β : Type}

/-- Keys stand in strictly ascending order, so no key occurs twice. -/
def Ascending (l : List (String × β)) : Prop := l.Pairwise fun a b => a.1 < b.1

instance (l : List (String × β)) : Decidable (Ascending l) :=
  inferInstanceAs (Decidable (l.Pairwise _))

/-- The value under a key: the first one, if a list that is not ascending has several. -/
def get? (k : String) : List (String × β) → Option β
  | [] => none
  | (k', v) :: r => if k = k' then some v else get? k r

/-- Writes a key in its place, replacing what stood there. -/
def insert (k : String) (v : β) : List (String × β) → List (String × β)
  | [] => [(k, v)]
  | (k', v') :: r =>
    if k < k' then (k, v) :: (k', v') :: r
    else if k = k' then (k, v) :: r
    else (k', v') :: insert k v r

/-- Writes every pair in turn, so of two values for one key the later one stays. -/
def insertAll (l : List (String × β)) (into : List (String × β)) : List (String × β) :=
  l.foldl (fun acc p => insert p.1 p.2 acc) into

/-- The ascending form of a list of pairs; a later value for a key replaces an earlier one. -/
def ofList (l : List (String × β)) : List (String × β) := insertAll l []

/-! ## looking up -/

@[simp] theorem get?_nil (k : String) : get? k ([] : List (String × β)) = none := rfl

@[simp] theorem get?_insert_self (k : String) (v : β) (l : List (String × β)) :
    get? k (insert k v l) = some v := by
  induction l with
  | nil => simp [insert, get?]
  | cons p r ih =>
    obtain ⟨k', v'⟩ := p
    unfold insert
    split
    · simp [get?]
    · split
      · simp [get?]
      · next h₂ => simp [get?, h₂, ih]

theorem get?_insert_of_ne {k k' : String} (h : k' ≠ k) (v : β) (l : List (String × β)) :
    get? k' (insert k v l) = get? k' l := by
  induction l with
  | nil => simp [insert, get?, h]
  | cons p r ih =>
    obtain ⟨j, w⟩ := p
    unfold insert
    split
    · simp [get?, h]
    · split
      · next h₂ => subst h₂; simp [get?, h]
      · simp [get?, ih]

/-! ## order -/

theorem ascending_nil : Ascending ([] : List (String × β)) := List.Pairwise.nil

theorem mem_insert {k : String} {v : β} {p : String × β} {l : List (String × β)}
    (h : p ∈ insert k v l) : p = (k, v) ∨ p ∈ l := by
  induction l with
  | nil => simpa [insert] using h
  | cons q r ih =>
    obtain ⟨j, w⟩ := q
    unfold insert at h
    split at h
    · simpa using h
    · split at h
      · rcases List.mem_cons.mp h with h | h
        · exact .inl h
        · exact .inr (List.mem_cons_of_mem _ h)
      · rcases List.mem_cons.mp h with h | h
        · exact .inr (by simp [h])
        · rcases ih h with h | h
          · exact .inl h
          · exact .inr (List.mem_cons_of_mem _ h)

theorem lt_of_not_lt_of_ne {a b : String} (h : ¬ a < b) (hne : a ≠ b) : b < a := by
  rcases Decidable.em (b < a) with hlt | hlt
  · exact hlt
  · exact absurd (String.le_antisymm (String.not_lt.mp hlt) (String.not_lt.mp h)) hne

theorem Ascending.insert {l : List (String × β)} (h : Ascending l) (k : String) (v : β) :
    Ascending (Keyed.insert k v l) := by
  induction l with
  | nil => simp [Keyed.insert, Ascending]
  | cons p r ih =>
    obtain ⟨j, w⟩ := p
    have hr : Ascending r := (List.pairwise_cons.mp h).2
    have hj : ∀ q ∈ r, j < q.1 := fun q hq => (List.pairwise_cons.mp h).1 q hq
    by_cases h₁ : k < j
    · simp only [Keyed.insert, h₁, if_true, Ascending]
      refine List.pairwise_cons.mpr ⟨?_, h⟩
      intro q hq
      rcases List.mem_cons.mp hq with hq | hq
      · rw [hq]; exact h₁
      · exact String.lt_trans h₁ (hj q hq)
    · by_cases h₂ : k = j
      · simp only [Keyed.insert, h₂, if_true, Ascending, String.lt_irrefl, if_false]
        exact List.pairwise_cons.mpr ⟨hj, hr⟩
      · simp only [Keyed.insert, h₁, h₂, if_false, Ascending]
        refine List.pairwise_cons.mpr ⟨?_, ih hr⟩
        intro q hq
        rcases mem_insert hq with hq | hq
        · rw [hq]; exact lt_of_not_lt_of_ne h₁ h₂
        · exact hj q hq

theorem Ascending.insertAll {into : List (String × β)} (h : Ascending into)
    (l : List (String × β)) : Ascending (Keyed.insertAll l into) := by
  induction l generalizing into with
  | nil => exact h
  | cons p r ih => exact ih (h.insert p.1 p.2)

theorem ascending_ofList (l : List (String × β)) : Ascending (ofList l) :=
  ascending_nil.insertAll l

/-- A key above all others goes to the end. -/
theorem insert_eq_append {k : String} {v : β} {l : List (String × β)}
    (h : ∀ p ∈ l, p.1 < k) : insert k v l = l ++ [(k, v)] := by
  induction l with
  | nil => rfl
  | cons p r ih =>
    obtain ⟨j, w⟩ := p
    have hj : j < k := h (j, w) List.mem_cons_self
    have h₁ : ¬ k < j := String.lt_asymm hj
    have h₂ : k ≠ j := fun e => String.lt_irrefl k (e ▸ hj)
    simp only [insert, h₁, h₂, if_false, List.cons_append]
    rw [ih fun p hp => h p (List.mem_cons_of_mem _ hp)]

theorem insertAll_eq_append {l into : List (String × β)} (h : Ascending (into ++ l)) :
    insertAll l into = into ++ l := by
  induction l generalizing into with
  | nil => simp [insertAll]
  | cons p r ih =>
    have hlt : ∀ q ∈ into, q.1 < p.1 := fun q hq =>
      (List.pairwise_append.mp h).2.2 q hq p List.mem_cons_self
    have : insertAll (p :: r) into = insertAll r (insert p.1 p.2 into) := rfl
    rw [this, insert_eq_append hlt, ih (by simpa [Ascending, List.append_assoc] using h)]
    simp

/-- An ascending list is its own ascending form. -/
theorem ofList_eq_self {l : List (String × β)} (h : Ascending l) : ofList l = l := by
  have h' : Ascending ([] ++ l) := h
  simpa [ofList] using insertAll_eq_append h'

end Keyed

/-! ## bundled maps -/

/-- A map from text to `β`: an association list in strictly ascending key order. -/
structure Dict (β : Type) where
  entries : List (String × β)
  ascending : Keyed.Ascending entries

namespace Dict

variable {β : Type}

theorem ext {a b : Dict β} (h : a.entries = b.entries) : a = b := by
  cases a; cases b; simpa using h

instance [DecidableEq β] : DecidableEq (Dict β) := fun a b =>
  if h : a.entries = b.entries then isTrue (ext h) else isFalse fun e => h (by rw [e])

/-- The map without entries. -/
def empty : Dict β := ⟨[], Keyed.ascending_nil⟩

instance : Inhabited (Dict β) := ⟨empty⟩

/-- The map of a list of pairs; a later value for a key replaces an earlier one. -/
def ofList (l : List (String × β)) : Dict β := ⟨Keyed.ofList l, Keyed.ascending_ofList l⟩

/-- The value under a key. -/
def get? (d : Dict β) (k : String) : Option β := Keyed.get? k d.entries

/-- Writes a key. -/
def insert (d : Dict β) (k : String) (v : β) : Dict β :=
  ⟨Keyed.insert k v d.entries, d.ascending.insert k v⟩

@[simp] theorem get?_insert_self (d : Dict β) (k : String) (v : β) :
    (d.insert k v).get? k = some v :=
  Keyed.get?_insert_self k v d.entries

theorem get?_insert_of_ne (d : Dict β) {k k' : String} (h : k' ≠ k) (v : β) :
    (d.insert k v).get? k' = d.get? k' :=
  Keyed.get?_insert_of_ne h v d.entries

/-- The entries of a map are its own list form. -/
@[simp] theorem ofList_entries (d : Dict β) : ofList d.entries = d :=
  ext (Keyed.ofList_eq_self d.ascending)

end Dict

end AlertDesk
