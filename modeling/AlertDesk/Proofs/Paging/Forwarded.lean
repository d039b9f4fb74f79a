import AlertDesk.Paging
import AlertDesk.Proofs.Record.Format

/-!
# AlertDesk.Proofs.Paging.Forwarded

What the portal reports about a page is passed on.  A pagination keeps the
numbers that are given, under whichever spelling, and every member that it does
not know.  It is written as the object it was read of, up to spelling and nulls
(`forwarded`), and reads back.

Objects have no order of their own here: a written pagination and a forwarded
object are both ascending, so they are compared by what they look up
(`Keyed.Ascending.ext`), key by key.

Main facts:

* `Pagination.decode_eq_ok_iff` — which pagination is read, and of what;
* `Pagination.wire_ofValue`, `Pagination.decode_wire` — writing what was read,
  and reading what was written;
* `QueryResponse.decode_eq_ok_iff` — the pagination of a response;
* `Pagination.pagination_forwarded` — pagination is forwarded, not invented.
-/

namespace AlertDesk

/-! ## counts -/

/-- Null or an integer that fits an unsigned word of 64 bits. -/
def Json.CountOrNull (v : Json) : Prop :=
  v = .null ∨ ∃ n : Nat, n < UInt64.size ∧ v = .num (.int n)

open Json (CountOrNull)

theorem checkCount_eq_ok_iff {v : Json} : checkCount v = .ok () ↔ v.CountOrNull := by
  unfold checkCount
  split
  · simp [CountOrNull]
  · next i =>
      simp only [CountOrNull, reduceCtorEq, false_or, Json.num.injEq, Number.int.injEq]
      split
      · next hneg =>
          simp only [reduceCtorEq, false_iff]
          rintro ⟨n, -, rfl⟩
          omega
      · next hpos =>
          split
          · next hlt => exact iff_of_true rfl ⟨i.toNat, by omega, by omega⟩
          · next hge =>
              simp only [reduceCtorEq, false_iff]
              rintro ⟨n, hlt, rfl⟩
              omega
  · next v hnull hint =>
      simp only [CountOrNull, reduceCtorEq, false_iff]
      rintro (rfl | ⟨n, -, rfl⟩)
      · exact hnull rfl
      · exact hint n rfl

theorem countOf_map (n : Option UInt64) : countOf (n.map Json.ofUInt64) = n := by
  cases n <;> simp [countOf, Json.ofUInt64]

theorem countOrNull_ofUInt64 (n : UInt64) : (Json.ofUInt64 n).CountOrNull :=
  .inr ⟨n.toNat, n.toNat_lt_size, rfl⟩

/-- A count is written as it was given, and null as nothing. -/
theorem map_countOf {ws : List Json} (once : ws.length ≤ 1) (taken : ∀ w ∈ ws, w.CountOrNull) :
    (countOf ws.head?).map Json.ofUInt64 = (ws.filter fun w => w ≠ .null).head? := by
  match ws with
  | [] => rfl
  | [w] =>
      obtain rfl | ⟨n, hn, rfl⟩ := taken w List.mem_cons_self
      · rfl
      · simp [countOf, Json.ofUInt64, UInt64.toNat_ofNat_of_lt' hn]
  | _ :: _ :: _ => simp at once

namespace Pagination

variable {v : Json} {members : List (String × Json)} {p : Pagination} {key : String} {place : Nat}

/-- The keys of the fields known by name. -/
def keys : List String := ["page", "pageSize", "size", "totalCount", "total"]

/-- The names under which the fields known by name are written. -/
def names : List String := ["page", "pageSize", "totalCount"]

theorem names_subset : names ⊆ keys := by decide

/-- For each of these fields a pagination has a number or nothing. -/
def format : List Slot := [
  { keys := ["page"], takes := CountOrNull },
  { keys := ["pageSize", "size"], takes := CountOrNull },
  { keys := ["totalCount", "total"], takes := CountOrNull }]

/-- The name under which a member is written. -/
def writtenName (key : String) : String :=
  if key = "size" then "pageSize" else if key = "total" then "totalCount" else key

/-- The members of an object as they are written again: without the known ones that
are null, and under the names they are written under. -/
def forwarded (members : List (String × Json)) : List (String × Json) :=
  (members.filter fun q => ¬ (q.1 ∈ keys ∧ q.2 = .null)).map fun q => (writtenName q.1, q.2)

theorem layout_apart : layout.Apart := by decide

theorem format_layout : layout.format = format := by
  simp only [Layout.format, layout, format, Field.keys, List.map_cons, List.map_nil,
    checkCount_eq_ok_iff, Option.toList_none, Option.toList_some]

theorem owns_iff_mem : layout.owns key = true ↔ key ∈ keys := Layout.owns_iff

/-- The pagination of what an object holds. -/
def ofValue (v : Json) : Pagination where
  page := countOf (v.held ["page"] 0).head?
  pageSize := countOf (v.held ["pageSize", "size"] 1).head?
  totalCount := countOf (v.held ["totalCount", "total"] 2).head?
  extra := Dict.ofList (layout.others v)

theorem decode_eq_ok_iff : decode v = .ok p ↔
    (∃ members, v = .obj members) ∧ v.Follows format ∧ p = ofValue v := by
  rw [← format_layout, ← layout_apart.read_eq_ok_iff, decode, decoded_eq_ok_iff, read,
    bind_eq_ok_iff]
  cases v with
  | obj members =>
      have hmake : ∀ fields, layout.read (.obj members) = .ok fields → ofValue (.obj members) =
          { page := countOf (Keyed.get? "page" fields)
            pageSize := countOf (Keyed.get? "pageSize" fields)
            totalCount := countOf (Keyed.get? "totalCount" fields)
            extra := Dict.ofList (layout.others (.obj members)) } := by
        intro fields hread
        have hpage : Keyed.get? "page" fields = ((Json.obj members).held ["page"] 0).head? :=
          layout_apart.get?_of_read hread rfl
        have hpageSize : Keyed.get? "pageSize" fields =
            ((Json.obj members).held ["pageSize", "size"] 1).head? :=
          layout_apart.get?_of_read hread rfl
        have htotalCount : Keyed.get? "totalCount" fields =
            ((Json.obj members).held ["totalCount", "total"] 2).head? :=
          layout_apart.get?_of_read hread rfl
        rw [hpage, hpageSize, htotalCount]
        rfl
      constructor
      · rintro ⟨fields, hread, hp⟩
        obtain rfl := Except.ok.inj hp
        exact ⟨⟨members, rfl⟩, ⟨fields, hread⟩, (hmake fields hread).symm⟩
      · rintro ⟨-, ⟨fields, hread⟩, rfl⟩
        exact ⟨fields, hread, congrArg Except.ok (hmake fields hread).symm⟩
  | _ => simp [Layout.readObject]

/-- The members that are not known are kept as they are. -/
theorem entries_ofValue (h : Keyed.Ascending members) :
    (ofValue (.obj members)).extra.entries = members.filter fun q => q.1 ∉ keys := by
  have howns : (fun q : String × Json => !layout.owns q.1) = fun q => decide (q.1 ∉ keys) := by
    funext q
    rw [Bool.eq_iff_iff, Bool.not_eq_true', ← Bool.not_eq_true, owns_iff_mem, decide_eq_true_eq]
  rw [← howns]
  exact Keyed.ofList_eq_self (h.filter _)

/-! ## writing -/

/-- A field that is written if it is set. -/
theorem get?_set (name : String) (n : Option UInt64) (key : String) :
    Keyed.get? key (n.map fun n => (name, Json.ofUInt64 n)).toList =
      if key = name then n.map Json.ofUInt64 else none := by
  cases n <;> simp [Keyed.get?_cons]

theorem get?_named (p : Pagination) (key : String) : Keyed.get? key p.named =
    ((if key = "page" then p.page.map Json.ofUInt64 else none).or
      (if key = "pageSize" then p.pageSize.map Json.ofUInt64 else none)).or
        (if key = "totalCount" then p.totalCount.map Json.ofUInt64 else none) := by
  simp only [named, Keyed.get?_append, get?_set]

theorem get?_named_page (p : Pagination) :
    Keyed.get? "page" p.named = p.page.map Json.ofUInt64 := by
  simp [get?_named]

theorem get?_named_pageSize (p : Pagination) :
    Keyed.get? "pageSize" p.named = p.pageSize.map Json.ofUInt64 := by
  simp [get?_named]

theorem get?_named_totalCount (p : Pagination) :
    Keyed.get? "totalCount" p.named = p.totalCount.map Json.ofUInt64 := by
  simp [get?_named]

theorem get?_named_of_not_mem (h : key ∉ names) : Keyed.get? key p.named = none := by
  simp only [names, List.mem_cons, not_or] at h
  obtain ⟨hpage, hpageSize, htotalCount, -⟩ := h
  rw [get?_named, if_neg hpage, if_neg hpageSize, if_neg htotalCount]
  rfl

theorem ascending_named (p : Pagination) : Keyed.Ascending p.named := by
  have hnames : names.Pairwise (· < ·) := by decide
  have hsub : (p.named.map Prod.fst).Sublist names := by
    rcases p with ⟨_ | _, _ | _, _ | _, _⟩ <;> simp [named, names]
  exact List.pairwise_map.mp (hnames.sublist hsub)

/-- The members of a written pagination. -/
def written (p : Pagination) : List (String × Json) := Keyed.insertAll p.extra.entries p.named

theorem wire_eq (p : Pagination) : p.wire = .obj p.written := rfl

theorem ascending_written (p : Pagination) : Keyed.Ascending p.written :=
  (ascending_named p).insertAll _

theorem get?_written (p : Pagination) (key : String) : Keyed.get? key p.written =
    (p.extra.get? key).or (Keyed.get? key p.named) :=
  Keyed.get?_insertAll p.extra.ascending.nodup _

/-! ## forwarding -/

/-- The known keys whose members are written under a name. -/
def spellings (name : String) : List String := keys.filter fun key => writtenName key = name

theorem writtenName_of_not_mem (h : key ∉ keys) : writtenName key = key := by
  simp only [keys, List.mem_cons, not_or] at h
  rw [writtenName, if_neg h.2.2.1, if_neg h.2.2.2.2.1]

theorem writtenName_eq_iff_of_mem (h : key ∈ keys) {q : String} :
    writtenName q = key ↔ q ∈ spellings key := by
  rw [spellings, List.mem_filter, decide_eq_true_eq, iff_and_self]
  rintro rfl
  by_contra hq
  exact hq (writtenName_of_not_mem hq ▸ h)

theorem writtenName_eq_iff_of_not_mem (h : key ∉ keys) {q : String} :
    writtenName q = key ↔ q = key := by
  constructor
  · rintro rfl
    have hall : ∀ key ∈ keys, writtenName key ∈ keys := by decide
    exact (writtenName_of_not_mem fun hq => h (hall q hq)).symm
  · rintro rfl
    exact writtenName_of_not_mem h

theorem held_forwarded (members : List (String × Json)) (key : String) (place : Nat) :
    (Json.obj (forwarded members)).held [key] place = (members.filter fun q =>
      writtenName q.1 = key ∧ ¬ (q.1 ∈ keys ∧ q.2 = .null)).map Prod.snd := by
  rw [Json.held, forwarded, List.filter_map, List.map_map, List.filter_filter]
  simp only [Function.comp_def, List.mem_singleton, Bool.decide_and]

/-- Of the members that are known is forwarded what is not null. -/
theorem held_forwarded_of_mem (h : key ∈ keys) :
    (Json.obj (forwarded members)).held [key] place =
      ((Json.obj members).held (spellings key) place).filter fun w => w ≠ .null := by
  rw [held_forwarded, Json.held, List.filter_map, List.filter_filter]
  congr 1
  refine List.filter_congr fun q _ => ?_
  have hknown : q.1 ∈ spellings key → q.1 ∈ keys := fun hq => (List.mem_filter.mp hq).1
  rw [Bool.eq_iff_iff]
  simp only [writtenName_eq_iff_of_mem h, Function.comp_apply, Bool.and_eq_true, decide_eq_true_eq]
  tauto

/-- The other members are forwarded as they are. -/
theorem held_forwarded_of_not_mem (h : key ∉ keys) :
    (Json.obj (forwarded members)).held [key] place = (Json.obj members).held [key] place := by
  rw [held_forwarded, Json.held]
  congr 1
  refine List.filter_congr fun q _ => ?_
  rw [decide_eq_decide, writtenName_eq_iff_of_not_mem h, List.mem_singleton, and_iff_left_iff_imp]
  rintro rfl hknown
  exact h hknown.1

/-- No two members are forwarded under one key. -/
theorem nodup_forwarded (h : Keyed.Ascending members) (hv : (Json.obj members).Follows format) :
    ((forwarded members).map Prod.fst).Nodup := by
  refine List.nodup_iff_count_le_one.mpr fun key => ?_
  rw [← Json.length_held_key key _ 0]
  by_cases hkey : key ∈ keys
  · rw [held_forwarded_of_mem hkey]
    refine Nat.le_trans (List.length_filter_le _ _) ?_
    -- under a known key is written one field, or none if the key is an older spelling
    have hslots : ∀ key ∈ keys, spellings key = [] ∨ spellings key ∈ format.map Slot.keys := by
      decide
    obtain hnone | hslot := hslots key hkey
    · simp [hnone, Json.held]
    · obtain ⟨slot, hmem, hkeys⟩ := List.mem_map.mp hslot
      obtain ⟨place, hplace⟩ := List.mem_iff_getElem?.mp hmem
      rw [← hkeys]
      exact hv.once place slot hplace
  · rw [held_forwarded_of_not_mem hkey, Json.length_held_key]
    exact List.nodup_iff_count_le_one.mp h.nodup key

/-- What an object holds is written as it is forwarded. -/
theorem wire_ofValue (h : Keyed.Ascending members) (hv : (Json.obj members).Follows format) :
    (ofValue (.obj members)).wire = .object (forwarded members) := by
  refine congrArg Json.obj ((ascending_written _).ext (Keyed.ascending_ofList _) fun key => ?_)
  rw [get?_written, Keyed.get?_ofList (nodup_forwarded h hv),
    Json.get?_eq_head? key (forwarded members) 0]
  have hextra : (ofValue (.obj members)).extra.get? key =
      if layout.owns key then none else Keyed.get? key members := Layout.get?_others h key
  by_cases hkey : key ∈ keys
  · rw [hextra, if_pos (owns_iff_mem.mpr hkey), Option.none_or, held_forwarded_of_mem hkey]
    -- each field is written as the one value that the object holds for it, under any spelling
    have hpage := map_countOf (hv.once 0 _ rfl) (hv.taken 0 _ rfl)
    have hpageSize := map_countOf (hv.once 1 _ rfl) (hv.taken 1 _ rfl)
    have htotalCount := map_countOf (hv.once 2 _ rfl) (hv.taken 2 _ rfl)
    by_cases hname : key ∈ names
    · simp only [names, List.mem_cons, List.not_mem_nil, or_false] at hname
      rcases hname with rfl | rfl | rfl
      · exact (get?_named_page _).trans hpage
      · exact (get?_named_pageSize _).trans hpageSize
      · exact (get?_named_totalCount _).trans htotalCount
    · have hunwritten : ∀ key ∈ keys, key ∉ names → spellings key = [] := by decide
      rw [hunwritten key hkey hname, get?_named_of_not_mem hname]
      simp [Json.held]
  · rw [hextra, if_neg fun howns => hkey (owns_iff_mem.mp howns),
      get?_named_of_not_mem fun hname => hkey (names_subset hname), Option.or_none,
      held_forwarded_of_not_mem hkey, ← Json.get?_eq_head?]

/-! ## reading back -/

/-- Nothing that a pagination keeps besides stands under a known key. -/
def Apart (p : Pagination) : Prop := ∀ key ∈ keys, p.extra.get? key = none

instance (p : Pagination) : Decidable p.Apart :=
  inferInstanceAs (Decidable (∀ key ∈ keys, p.extra.get? key = none))

theorem get?_written_of_known (h : p.Apart) (hkey : key ∈ keys) :
    Keyed.get? key p.written = Keyed.get? key p.named := by
  rw [get?_written, h key hkey, Option.none_or]

/-- A written field holds its number, whichever of its other keys it is asked for under. -/
theorem held_written (h : p.Apart) {name : String} (others : List String) {n : Option UInt64}
    (hkeys : ∀ key ∈ name :: others, key ∈ keys) (hothers : ∀ other ∈ others, other ∉ names)
    (hn : Keyed.get? name p.named = n.map Json.ofUInt64) (place : Nat) :
    p.wire.held (name :: others) place = (n.map Json.ofUInt64).toList := by
  obtain ⟨hname, hknown⟩ := List.forall_mem_cons.mp hkeys
  have habsent : ∀ other ∈ others, Keyed.get? other p.written = none := by
    intro other hother
    rw [get?_written_of_known h (hknown other hother), get?_named_of_not_mem (hothers other hother)]
  rw [wire_eq, Json.held_of_absent habsent, Json.held_eq_toList (ascending_written p),
    get?_written_of_known h hname, hn]

theorem held_page (h : p.Apart) (place : Nat) :
    p.wire.held ["page"] place = (p.page.map Json.ofUInt64).toList :=
  held_written h [] (by decide) (by decide) (get?_named_page p) place

theorem held_pageSize (h : p.Apart) (place : Nat) :
    p.wire.held ["pageSize", "size"] place = (p.pageSize.map Json.ofUInt64).toList :=
  held_written h ["size"] (by decide) (by decide) (get?_named_pageSize p) place

theorem held_totalCount (h : p.Apart) (place : Nat) :
    p.wire.held ["totalCount", "total"] place = (p.totalCount.map Json.ofUInt64).toList :=
  held_written h ["total"] (by decide) (by decide) (get?_named_totalCount p) place

theorem follows_wire (h : p.Apart) : p.wire.Follows format := by
  have hslots : ∀ place slot, format[place]? = some slot → slot.takes = CountOrNull ∧
      ∃ n : Option UInt64, p.wire.held slot.keys place = (n.map Json.ofUInt64).toList := by
    intro place slot hslot
    match place, hslot with
    | 0, rfl => exact ⟨rfl, p.page, held_page h 0⟩
    | 1, rfl => exact ⟨rfl, p.pageSize, held_pageSize h 1⟩
    | 2, rfl => exact ⟨rfl, p.totalCount, held_totalCount h 2⟩
  refine ⟨.inl ⟨p.written, rfl⟩, fun place slot hslot => ?_, fun place slot hslot w hw => ?_⟩
  · obtain ⟨-, n, hheld⟩ := hslots place slot hslot
    rw [hheld]
    exact Option.length_toList_le
  · obtain ⟨htakes, n, hheld⟩ := hslots place slot hslot
    rw [hheld, Option.mem_toList] at hw
    obtain ⟨n, -, rfl⟩ := Option.map_eq_some_iff.mp hw
    exact htakes ▸ countOrNull_ofUInt64 n

theorem others_wire (h : p.Apart) : Dict.ofList (layout.others p.wire) = p.extra := by
  refine Dict.ext_get? fun key => (Layout.get?_others (ascending_written p) key).trans ?_
  by_cases howns : layout.owns key
  · rw [if_pos howns, h key (owns_iff_mem.mp howns)]
  · have hkey : key ∉ names := fun hname => howns (owns_iff_mem.mpr (names_subset hname))
    rw [if_neg howns, get?_written, get?_named_of_not_mem hkey, Option.or_none]

/-- **A written pagination reads back.** -/
theorem decode_wire (h : p.Apart) : decode p.wire = .ok p := by
  refine decode_eq_ok_iff.mpr ⟨⟨p.written, rfl⟩, follows_wire h, ?_⟩
  rw [ofValue, held_page h, held_pageSize h, held_totalCount h, others_wire h]
  simp only [Option.head?_toList, countOf_map]

end Pagination

/-! ## responses -/

namespace QueryResponse

variable {v : Json} {r : QueryResponse}

/-- The fields of a response. -/
def format : List Slot := [
  { keys := ["data"], takes := Json.ListOrNull },
  { keys := ["pagination"], takes := fun w => w = .null ∨ ∃ p, Pagination.decode w = .ok p }]

theorem checkPagination_eq_ok_iff {w : Json} :
    checkPagination w = .ok () ↔ w = .null ∨ ∃ p, Pagination.decode w = .ok p := by
  unfold checkPagination
  split
  · simp
  · next hnull =>
      rw [or_iff_right hnull]
      simp only [Pagination.decode, decoded_eq_ok_iff]
      cases Pagination.read w <;> simp [Except.map]

theorem paginationOf_of_decode {w : Json} {p : Pagination} (h : Pagination.decode w = .ok p) :
    paginationOf (some w) = p := by
  have hread : Pagination.read w = .ok p := decoded_eq_ok_iff.mp h
  rw [paginationOf, hread]

theorem eq_paginationOf_iff {ws : List Json} (once : ws.length ≤ 1)
    (taken : ∀ w ∈ ws, w = .null ∨ ∃ p, Pagination.decode w = .ok p) {p : Pagination} :
    p = paginationOf ws.head? ↔ ((∀ w ∈ ws, w = .null) → p = {}) ∧
      ∀ w ∈ ws, w ≠ .null → Pagination.decode w = .ok p := by
  match ws with
  | [] => simp [paginationOf]
  | [w] =>
      obtain rfl | ⟨p', hw⟩ := taken w List.mem_cons_self
      · simp [paginationOf, Pagination.read, Layout.readObject, bind, Except.bind]
      · have hnull : w ≠ .null := by
          rintro rfl
          contradiction
        simp [paginationOf_of_decode hw, hnull, hw, eq_comm]
  | _ :: _ :: _ => simp at once

theorem layout_apart : layout.Apart := by decide

theorem format_layout : layout.format = format := by
  simp only [Layout.format, layout, format, Field.keys, List.map_cons, List.map_nil,
    checkList_eq_ok_iff, checkPagination_eq_ok_iff, Option.toList_none]

theorem decode_eq_ok_iff : decode v = .ok r ↔ v.Follows format ∧ r.data = v.itemsAt ["data"] 0 ∧
    ((∀ w ∈ v.held ["pagination"] 1, w = .null) → r.pagination = {}) ∧
      ∀ w ∈ v.held ["pagination"] 1, w ≠ .null → Pagination.decode w = .ok r.pagination := by
  have hmake : ∀ fields, layout.read v = .ok fields → v.Follows format ∧
      itemsOf (Keyed.get? "data" fields) = v.itemsAt ["data"] 0 ∧
      paginationOf (Keyed.get? "pagination" fields) =
        paginationOf (v.held ["pagination"] 1).head? := by
    intro fields hread
    exact ⟨format_layout ▸ layout_apart.read_eq_ok_iff.mp ⟨fields, hread⟩,
      layout_apart.itemsOf_of_read hread rfl,
      congrArg paginationOf (layout_apart.get?_of_read hread rfl)⟩
  simp only [decode, bind_eq_ok_iff, decoded_eq_ok_iff]
  constructor
  · rintro ⟨fields, hread, hr⟩
    obtain ⟨hv, hdata, hpagination⟩ := hmake fields hread
    obtain rfl := Except.ok.inj hr
    rw [← eq_paginationOf_iff (hv.once 1 _ rfl) (hv.taken 1 _ rfl)]
    exact ⟨hv, hdata, hpagination⟩
  · rintro ⟨hv, hdata, hr⟩
    rw [← eq_paginationOf_iff (hv.once 1 _ rfl) (hv.taken 1 _ rfl)] at hr
    obtain ⟨fields, hread⟩ := layout_apart.read_eq_ok_iff.mpr (format_layout ▸ hv)
    obtain ⟨-, hitems, hpagination⟩ := hmake fields hread
    refine ⟨fields, hread, ?_⟩
    rw [hitems, hpagination, ← hdata, ← hr]
    rfl

/-- **A response is read of what follows its format.** -/
theorem exists_decode_iff : (∃ r, decode v = .ok r) ↔ v.Follows format := by
  rw [← format_layout, ← layout_apart.read_eq_ok_iff]
  simp only [decode, bind_eq_ok_iff, decoded_eq_ok_iff]
  constructor
  · rintro ⟨r, fields, hread, -⟩
    exact ⟨fields, hread⟩
  · rintro ⟨fields, hread⟩
    exact ⟨_, fields, hread, rfl⟩

end QueryResponse

/-- **Pagination is forwarded, not invented.**  It is read of an object that holds a
count, null or nothing for each field, and of nothing else.  The members that are not
known are kept as they are, and what is written is the object again: nulls of known
fields left out, and the others under the names they are written under, no two of them
under one.  What was written reads back.  In a response null and nothing are the
pagination without any fields, and the records are passed on one by one. -/
theorem Pagination.pagination_forwarded :
    (∀ v, (∃ p, decode v = .ok p) ↔ (∃ members, v = .obj members) ∧ v.Follows format) ∧
    (∀ v, (∃ p, decode v = .ok p) ∨ ∃ reason, decode v = .error (.decode reason)) ∧
    (∀ members p, Keyed.Ascending members → decode (.obj members) = .ok p →
      p.extra.entries = members.filter (fun q => q.1 ∉ keys) ∧
      p.wire = .object (forwarded members) ∧ ((forwarded members).map Prod.fst).Nodup) ∧
    (∀ p : Pagination, p.Apart → decode p.wire = .ok p) ∧
    ∀ v r, QueryResponse.decode v = .ok r ↔ v.Follows QueryResponse.format ∧
      r.data = v.itemsAt ["data"] 0 ∧
      ((∀ w ∈ v.held ["pagination"] 1, w = .null) → r.pagination = {}) ∧
      ∀ w ∈ v.held ["pagination"] 1, w ≠ .null → decode w = .ok r.pagination := by
  refine ⟨fun v => ?_, fun v => ?_, fun members p hmembers hp => ?_, fun p hp => decode_wire hp,
    fun v r => QueryResponse.decode_eq_ok_iff⟩
  · simp only [decode_eq_ok_iff, exists_and_left, exists_eq, and_true]
  · exact (isDecode_decoded _).ok_or_decode
  · obtain ⟨-, hv, rfl⟩ := decode_eq_ok_iff.mp hp
    exact ⟨entries_ofValue hmembers, wire_ofValue hmembers hv, nodup_forwarded hmembers hv⟩

/-- Under other spellings, beside a null and members that are not known.  Given under
both spellings, even once as null, nothing is read. -/
theorem Pagination.pagination_forwarded_aliases :
    let members : List (String × Json) := [("next", .arr [.num (.int 75)]), ("page", .null),
      ("size", .num (.int 25)), ("total", .num (.int 103))]
    let both : Json := .obj [("pageSize", .num (.int 25)), ("size", .null)]
    let p : Pagination := { page := some 2, extra := Dict.ofList [("next", .null)] }
    (∃ p', decode (.obj members) = .ok p' ∧ p'.wire = .object [("next", .arr [.num (.int 75)]),
      ("pageSize", .num (.int 25)), ("totalCount", .num (.int 103))]) ∧
    decode p.wire = .ok p ∧ ¬ ∃ p', decode both = .ok p' := by
  intro members both p
  obtain ⟨hread, -, hwritten, hback, -⟩ := pagination_forwarded
  have hmembers : Keyed.Ascending members := by decide
  obtain ⟨p', hp'⟩ : ∃ p', decode (.obj members) = .ok p' := ⟨_, rfl⟩
  have hp : p.Apart := by decide
  refine ⟨⟨p', hp', (hwritten members p' hmembers hp').2.1⟩, hback p hp, ?_⟩
  rw [hread]
  rintro ⟨-, hboth⟩
  exact absurd (hboth.once 1 _ rfl) (by decide)

end AlertDesk
