import AlertDesk.Paging
import AlertDesk.Proofs.Keyed.Lookup
import Mathlib.Data.Sum.Basic

/-!
# AlertDesk.Proofs.Paging.Parameters

The parameters of a list query, as pairs and as an object.  The object is what the
pairs come to when the last value of a name counts, so a filter that is named like
one of the first three parameters replaces it either way.

A query is built by settings, each of which has a `Slot`: two that do not share one
do not get in each other's way, so nothing but the order within a slot matters.

Main facts:

* `pairs_eq_nil_iff` — a query without parameters is the one that sets nothing;
* `exists_wire_eq` — the object is what the pairs come to;
* `build_congr` — settings of different slots may change places.
-/

namespace AlertDesk

/-- The text of a parameter's value. -/
def Json.parameterText : Json → String
  | .str s => s
  | .num n => n.text
  | _ => ""

theorem Json.parameterText_str (s : String) : (Json.str s).parameterText = s := rfl

theorem Json.parameterText_ofUInt64 (n : UInt64) :
    (Json.ofUInt64 n).parameterText = Nat.repr n.toNat := by
  have hsign : ¬ (n.toNat : Int) < 0 := by omega
  simp [ofUInt64, parameterText, Number.text, hsign]

namespace ListQuery

variable {q q' : ListQuery} {p : String × Json}

/-! ## pairs -/

/-- A query without parameters is the one that sets nothing. -/
theorem pairs_eq_nil_iff : q.pairs = [] ↔ q = {} := by
  obtain ⟨page, pageSize, contains, filters⟩ := q
  constructor
  · intro h
    simp only [pairs, List.append_eq_nil_iff, Option.toList_eq_nil_iff, Option.map_eq_none_iff] at h
    obtain ⟨⟨⟨rfl, rfl⟩, rfl⟩, hfilters⟩ := h
    rw [show filters = Dict.empty from Dict.ext hfilters]
  · intro h
    rw [h]
    rfl

/-- The members of the object, before the last one of a name is chosen. -/
def members (q : ListQuery) : List (String × Json) :=
  q.named ++ q.filters.entries.map fun p => (p.1, .str p.2)

/-- The pairs are these members, their values as texts. -/
theorem pairs_eq (q : ListQuery) : q.pairs = q.members.map (Prod.map id Json.parameterText) := by
  have hfilters : (q.filters.entries.map fun p => (p.1, Json.str p.2)).map
      (Prod.map id Json.parameterText) = q.filters.entries := by
    rw [List.map_map]
    exact (List.map_congr_left fun p _ => rfl).trans (List.map_id _)
  have hnamed : q.named.map (Prod.map id Json.parameterText) =
      (q.page.map fun n => ("page", Nat.repr n.toNat)).toList ++
        (q.pageSize.map fun n => ("pageSize", Nat.repr n.toNat)).toList ++
        (q.contains.map fun s => ("contains", s)).toList := by
    cases hpage : q.page <;> cases hpageSize : q.pageSize <;> cases hcontains : q.contains <;>
      simp [named, hpage, hpageSize, hcontains, Json.parameterText_ofUInt64,
        Json.parameterText_str]
  rw [members, List.map_append, hfilters, hnamed, pairs]

/-- The values are texts and numbers. -/
theorem value_of_mem_members (h : p ∈ q.members) :
    (∃ s, p.2 = .str s) ∨ ∃ n, p.2 = Json.ofUInt64 n := by
  simp only [members, named, List.mem_append, Option.mem_toList, Option.map_eq_some_iff,
    List.mem_map] at h
  obtain ((⟨n, -, rfl⟩ | ⟨n, -, rfl⟩) | ⟨s, -, rfl⟩) | ⟨⟨key, s⟩, -, rfl⟩ := h
  · exact .inr ⟨n, rfl⟩
  · exact .inr ⟨n, rfl⟩
  · exact .inl ⟨s, rfl⟩
  · exact .inl ⟨s, rfl⟩

/-- **What the pairs come to is the object**, its values as texts. -/
theorem exists_wire_eq (q : ListQuery) : ∃ ps, q.wire = .obj ps ∧
    (Dict.ofList q.pairs).entries = ps.map (Prod.map id Json.parameterText) ∧
    ∀ p ∈ ps, (∃ s, p.2 = .str s) ∨ ∃ n, p.2 = Json.ofUInt64 n := by
  refine ⟨Keyed.ofList q.members, rfl, ?_, fun p hp => ?_⟩
  · rw [pairs_eq]
    exact Keyed.ofList_map _ _
  · exact value_of_mem_members (Keyed.mem_ofList hp)

/-- Queries that are the same object come to the same. -/
theorem ofList_pairs_congr (h : q.wire = q'.wire) : Dict.ofList q.pairs = Dict.ofList q'.pairs := by
  obtain ⟨ps, hwire, hentries, -⟩ := exists_wire_eq q
  obtain ⟨ps', hwire', hentries', -⟩ := exists_wire_eq q'
  obtain rfl : ps = ps' := Json.obj.inj (hwire.symm.trans (h.trans hwire'))
  exact Dict.ext (hentries.trans hentries'.symm)

/-! ## building -/

/-- A call that sets a parameter. -/
inductive Setting where
  | pageSize (size : UInt64)
  | search (text : String)
  | filter (key value : String)

/-- What a setting sets. -/
inductive Slot where
  | pageSize
  | search
  | filter (key : String)
  deriving DecidableEq

/-- The slot of a setting. -/
def Setting.slot : Setting → Slot
  | .pageSize _ => .pageSize
  | .search _ => .search
  | .filter key _ => .filter key

/-- Makes the call. -/
def set (q : ListQuery) : Setting → ListQuery
  | .pageSize size => q.withPageSize size
  | .search text => q.withSearch text
  | .filter key value => q.withFilter key value

/-- Makes calls in turn. -/
def build (q : ListQuery) (settings : List Setting) : ListQuery := settings.foldl set q

variable {s : Setting} {settings settings' : List Setting}

/-- What a slot of a query holds. -/
def held (q : ListQuery) : Slot → Option (UInt64 ⊕ String)
  | .pageSize => q.pageSize.map .inl
  | .search => q.contains.map .inr
  | .filter key => (q.filters.get? key).map .inr

/-- What a setting puts into its slot. -/
def Setting.value : Setting → UInt64 ⊕ String
  | .pageSize size => .inl size
  | .search text | .filter _ text => .inr text

/-- **A setting fills its slot and leaves the others as they are.** -/
theorem held_set (q : ListQuery) (s : Setting) (slot : Slot) :
    (q.set s).held slot = if s.slot = slot then some s.value else q.held slot := by
  cases s with
  | pageSize size => cases slot <;> rfl
  | search text => cases slot <;> rfl
  | filter key value =>
      cases slot with
      | pageSize => rfl
      | search => rfl
      | filter key' =>
          simp only [held, set, withFilter, Dict.get?, Dict.insert, Keyed.get?_insert,
            Setting.slot, Setting.value, Slot.filter.injEq, eq_comm (a := key)]
          split <;> rfl

/-- What a slot holds in the end is decided by the settings of that slot. -/
theorem held_build {slot : Slot} (h : q.held slot = q'.held slot) (settings : List Setting) :
    (q.build settings).held slot = (q'.build (settings.filter (·.slot = slot))).held slot := by
  induction settings generalizing q q' with
  | nil => exact h
  | cons s settings ih =>
      by_cases hslot : s.slot = slot
      · rw [List.filter_cons_of_pos (by simpa using hslot)]
        exact ih (by rw [held_set, held_set, if_pos hslot, if_pos hslot])
      · rw [List.filter_cons_of_neg (by simpa using hslot)]
        exact ih (by rw [held_set, if_neg hslot, h])

theorem page_build (q : ListQuery) (settings : List Setting) :
    (q.build settings).page = q.page := by
  induction settings generalizing q with
  | nil => rfl
  | cons s settings ih =>
      refine (ih (q.set s)).trans ?_
      cases s <;> rfl

/-- A query is told by its page and what its slots hold. -/
theorem ext_held (hpage : q.page = q'.page) (h : ∀ slot, q.held slot = q'.held slot) : q = q' := by
  have hpageSize : q.pageSize = q'.pageSize :=
    Option.map_injective Sum.inl_injective (h .pageSize)
  have hcontains : q.contains = q'.contains := Option.map_injective Sum.inr_injective (h .search)
  have hfilters : q.filters = q'.filters :=
    Dict.ext_get? fun key => Option.map_injective Sum.inr_injective (h (.filter key))
  cases q
  cases q'
  simp_all

/-- **Settings of different slots may change places.** -/
theorem build_congr (q : ListQuery)
    (h : ∀ slot, settings.filter (·.slot = slot) = settings'.filter (·.slot = slot)) :
    q.build settings = q.build settings' := by
  refine ext_held ((page_build q settings).trans (page_build q settings').symm) fun slot => ?_
  rw [held_build rfl, h slot, ← held_build rfl]

end ListQuery

end AlertDesk
