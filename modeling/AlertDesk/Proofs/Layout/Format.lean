import AlertDesk.Proofs.Layout.Members
import Mathlib.Data.List.Pairwise

/-!
# AlertDesk.Proofs.Layout.Format

The format of a record type as its writer knows it.  A value of the format is
an object or an array, and for each field it holds one value at most: in an
object under any of the field's keys, in an array at the field's place.  What it
holds is one of the values the field takes (`Json.Follows`).

A layout is matched member by member, or item by item.  Either way what comes of
it is told by the format alone.

Main facts:

* `read_eq_ok_iff` — a value is read if and only if it follows the format;
* `get?_of_read` — under the name of a field is read what the value holds for it;
* `readMembers_filter` — members of other keys are without influence.
-/

namespace AlertDesk

/-! ## formats -/

/-- A field of a format: the keys it may stand under, and the values it takes. -/
structure Slot where
  keys : List String
  takes : Json → Prop

namespace Json

/-- What a value holds for a field: in an object what stands under the field's
keys, in an array what stands at the field's place. -/
def held (v : Json) (keys : List String) (place : Nat) : List Json :=
  match v with
  | .obj members => (members.filter fun p => p.1 ∈ keys).map Prod.snd
  | .arr items => items[place]?.toList
  | _ => []

/-- A value of a format: an object, or an array with no more items than the format
has fields.  For no field it holds more than one value, and for none a value that
the field does not take. -/
structure Follows (v : Json) (format : List Slot) : Prop where
  outer : (∃ members, v = .obj members) ∨ ∃ items, v = .arr items ∧ items.length ≤ format.length
  once : ∀ place slot, format[place]? = some slot → (v.held slot.keys place).length ≤ 1
  taken : ∀ place slot, format[place]? = some slot → ∀ w ∈ v.held slot.keys place, slot.takes w

/-- The text that a value holds for a field; the empty one for null or nothing. -/
def textAt (v : Json) (keys : List String) (place : Nat) : String :=
  textOf (v.held keys place).head?

/-- The items of the list that a value holds for a field; none for null or nothing. -/
def itemsAt (v : Json) (keys : List String) (place : Nat) : List Json :=
  itemsOf (v.held keys place).head?

variable {members : List (String × Json)} {keys others : List String} {key : String} {place : Nat}

theorem mem_held_obj {w : Json} :
    w ∈ (Json.obj members).held keys place ↔ ∃ key ∈ keys, (key, w) ∈ members := by
  simp only [held, List.mem_map, List.mem_filter, decide_eq_true_eq, Prod.exists]
  constructor
  · rintro ⟨key, w, ⟨hmem, hkey⟩, rfl⟩
    exact ⟨key, hkey, hmem⟩
  · rintro ⟨key, hkey, hmem⟩
    exact ⟨key, w, ⟨hmem, hkey⟩, rfl⟩

theorem held_obj_cons_of_mem {w : Json} (h : key ∈ keys) :
    (Json.obj ((key, w) :: members)).held keys place = w :: (Json.obj members).held keys place := by
  simp [held, h]

theorem held_obj_cons_of_not_mem {w : Json} (h : key ∉ keys) :
    (Json.obj ((key, w) :: members)).held keys place = (Json.obj members).held keys place := by
  simp [held, h]

/-- Looking up a key finds the first of what stands under it. -/
theorem get?_eq_head? (key : String) (members : List (String × Json)) (place : Nat) :
    Keyed.get? key members = ((Json.obj members).held [key] place).head? := by
  induction members with
  | nil => rfl
  | cons p members ih =>
      obtain ⟨key', w⟩ := p
      rw [Keyed.get?_cons]
      by_cases hkey : key = key'
      · rw [if_pos hkey, held_obj_cons_of_mem (by simp [hkey]), List.head?_cons]
      · rw [if_neg hkey, held_obj_cons_of_not_mem (by simpa using Ne.symm hkey), ih]

theorem length_held_key (key : String) (members : List (String × Json)) (place : Nat) :
    ((Json.obj members).held [key] place).length = (members.map Prod.fst).count key := by
  induction members with
  | nil => rfl
  | cons p members ih =>
      obtain ⟨key', w⟩ := p
      by_cases hkey : key = key'
      · rw [held_obj_cons_of_mem (by simp [hkey]), List.length_cons, ih, List.map_cons, hkey,
          List.count_cons_self]
      · have hne : key' ≠ key := Ne.symm hkey
        rw [held_obj_cons_of_not_mem (by simpa using hne), ih, List.map_cons,
          List.count_cons_of_ne hne]

/-- Keys under which nothing stands do not matter. -/
theorem held_of_absent (h : ∀ other ∈ others, Keyed.get? other members = none) :
    (Json.obj members).held (key :: others) place = (Json.obj members).held [key] place := by
  rw [held, held]
  congr 1
  refine List.filter_congr fun q hq => ?_
  have hother : q.1 ∉ others := fun hmem =>
    Keyed.get?_eq_none_iff.mp (h q.1 hmem) (List.mem_map_of_mem hq)
  simp [hother]

theorem held_eq_toList (h : Keyed.Ascending members) :
    (Json.obj members).held [key] place = (Keyed.get? key members).toList := by
  have hlength : ((Json.obj members).held [key] place).length ≤ 1 := by
    rw [length_held_key]
    exact List.nodup_iff_count_le_one.mp h.nodup key
  rw [get?_eq_head? key members place]
  match (Json.obj members).held [key] place, hlength with
  | [], _ => rfl
  | [w], _ => rfl

end Json

/-! ## the format of a layout -/

/-- The keys of a field. -/
def Field.keys (f : Field) : List String := f.name :: f.otherName.toList

theorem Field.spells_iff {f : Field} {key : String} : f.spells key = true ↔ key ∈ f.keys := by
  cases h : f.otherName <;> simp [spells, keys, h]

namespace Layout

variable {l : Layout} {members fields : List (String × Json)} {seen : List String}
  {key : String} {place : Nat} {v : Json} {f : Field}

/-- The format that a layout reads. -/
def format (l : Layout) : List Slot :=
  l.fields.map fun f => { keys := f.keys, takes := fun w => f.check w = .ok () }

/-- No key belongs to two fields. -/
def Apart (l : Layout) : Prop := (l.fields.flatMap Field.keys).Nodup

instance : Decidable l.Apart := inferInstanceAs (Decidable (List.Nodup _))

theorem owns_iff : l.owns key = true ↔ key ∈ l.fields.flatMap Field.keys := by
  simp [owns, field?, Field.spells_iff]

theorem names_sublist (fs : List Field) : (fs.map Field.name).Sublist (fs.flatMap Field.keys) := by
  induction fs with
  | nil => exact .slnil
  | cons f fs ih => exact .cons_cons f.name (ih.trans (List.sublist_append_right _ _))

theorem Apart.names (h : l.Apart) : (l.fields.map Field.name).Nodup :=
  h.sublist (names_sublist l.fields)

/-- A key names the field it belongs to. -/
theorem Apart.field?_eq_some_iff (h : l.Apart) :
    l.field? key = some f ↔ f ∈ l.fields ∧ key ∈ f.keys := by
  constructor
  · intro hf
    obtain ⟨hmem, hspells⟩ := spells_of_field? hf
    exact ⟨hmem, Field.spells_iff.mp hspells⟩
  · rintro ⟨hmem, hkey⟩
    have howns : l.owns key = true := owns_iff.mpr (List.mem_flatMap.mpr ⟨f, hmem, hkey⟩)
    obtain ⟨g, hg⟩ := Option.isSome_iff_exists.mp howns
    obtain ⟨hgmem, hgspells⟩ := spells_of_field? hg
    have : Std.Symm (Function.onFun List.Disjoint Field.keys) := ⟨fun _ _ hd _ hg hf => hd hf hg⟩
    by_cases heq : f = g
    · rw [hg, heq]
    · have hdisjoint := (List.nodup_flatMap.mp h).2.forall hmem hgmem heq
      exact absurd (Field.spells_iff.mp hgspells) (hdisjoint hkey)

/-! ## objects -/

/-- Under a field's own name is taken over what stands under its keys. -/
theorem Apart.held_given (h : l.Apart) (hf : f ∈ l.fields) (members : List (String × Json))
    (place : Nat) :
    (Json.obj (l.given members)).held [f.name] place = (Json.obj members).held f.keys place := by
  induction members with
  | nil => rfl
  | cons p members ih =>
      obtain ⟨key, w⟩ := p
      by_cases hkey : key ∈ f.keys
      · have hfield := h.field?_eq_some_iff.mpr ⟨hf, hkey⟩
        rw [given_cons_of_some hfield, Json.held_obj_cons_of_mem (by simp), ih,
          Json.held_obj_cons_of_mem hkey]
      · rw [Json.held_obj_cons_of_not_mem hkey, ← ih]
        cases hfield : l.field? key with
        | none => rw [given_cons_of_none hfield]
        | some g =>
            obtain ⟨hg, hgkey⟩ := h.field?_eq_some_iff.mp hfield
            have hname : g.name ∉ [f.name] := by
              intro hmem
              have heq := List.inj_on_of_nodup_map h.names hg hf (List.mem_singleton.mp hmem)
              exact hkey (heq ▸ hgkey)
            rw [given_cons_of_some hfield, Json.held_obj_cons_of_not_mem hname]

/-- Members fit the fields if each field is given once at most, and as it may be. -/
theorem Apart.fits_iff (h : l.Apart) (place : Nat) : l.Fits members ↔
    ∀ f ∈ l.fields, ((Json.obj members).held f.keys place).length ≤ 1 ∧
      ∀ w ∈ (Json.obj members).held f.keys place, f.check w = .ok () := by
  have hcount : ∀ f ∈ l.fields, ((l.given members).map Prod.fst).count f.name =
      ((Json.obj members).held f.keys place).length := by
    intro f hf
    rw [← h.held_given hf, Json.length_held_key]
  constructor
  · rintro ⟨checked, once⟩ f hf
    refine ⟨hcount f hf ▸ List.nodup_iff_count_le_one.mp once f.name, fun w hw => ?_⟩
    obtain ⟨key, hkey, hmem⟩ := Json.mem_held_obj.mp hw
    exact checked key w hmem f (h.field?_eq_some_iff.mpr ⟨hf, hkey⟩)
  · intro hfields
    constructor
    · intro key w hmem f hfield
      obtain ⟨hf, hkey⟩ := h.field?_eq_some_iff.mp hfield
      exact (hfields f hf).2 w (Json.mem_held_obj.mpr ⟨key, hkey, hmem⟩)
    · refine List.nodup_iff_count_le_one.mpr fun name => ?_
      by_cases hname : ∃ f ∈ l.fields, f.name = name
      · obtain ⟨f, hf, rfl⟩ := hname
        exact hcount f hf ▸ (hfields f hf).1
      -- what is taken over stands under the name of a field
      · have hnone : name ∉ (l.given members).map Prod.fst := by
          intro hmem
          obtain ⟨p, hgiven, rfl⟩ := List.mem_map.mp hmem
          obtain ⟨q, -, hq⟩ := List.mem_filterMap.mp hgiven
          obtain ⟨f, hfield, heq⟩ := Option.map_eq_some_iff.mp hq
          exact hname ⟨f, (spells_of_field? hfield).1, congrArg Prod.fst heq⟩
        rw [List.count_eq_zero_of_not_mem hnone]
        exact Nat.zero_le 1

/-- Members of other keys are without influence. -/
theorem readMembers_filter (l : Layout) (seen : List String) (members : List (String × Json)) :
    l.readMembers seen (members.filter fun p => l.owns p.1) = l.readMembers seen members := by
  induction members generalizing seen with
  | nil => rfl
  | cons p members ih =>
      obtain ⟨key, w⟩ := p
      cases hf : l.field? key with
      | none => simp only [owns, List.filter_cons, hf, readMembers_cons_of_none hf]; exact ih seen
      | some f =>
          have hkeep : (((key, w) :: members).filter fun p => l.owns p.1) =
              (key, w) :: members.filter fun p => l.owns p.1 := by
            simp [owns, hf]
          rw [hkeep]
          by_cases hseen : f.name ∈ seen
          · rw [readMembers_cons_of_seen hf hseen, readMembers_cons_of_seen hf hseen]
          · rw [readMembers_cons_of_new hf hseen, readMembers_cons_of_new hf hseen, ih]

/-! ## arrays -/

/-- What is read of an array: each item under the name of the field at its place. -/
theorem readItems_eq_ok_iff {length : Nat} {fs : List Field} {items : List Json} :
    readItems length fs items = .ok fields ↔ items.length ≤ fs.length ∧
      (∀ p ∈ fs.zip items, p.1.check p.2 = .ok ()) ∧
      fields = (fs.zip items).map fun p => (p.1.name, p.2) := by
  induction fs generalizing items fields with
  | nil => cases items <;> simp [readItems, eq_comm]
  | cons f fs ih =>
      cases items with
      | nil => simp [readItems, eq_comm]
      | cons w items =>
          rw [readItems, bind_eq_ok_iff]
          simp only [bind_eq_ok_iff, ih, List.length_cons, Nat.add_le_add_iff_right,
            List.zip_cons_cons, List.forall_mem_cons, List.map_cons]
          constructor
          · rintro ⟨⟨⟩, hcheck, rest, ⟨hlength, hrest, rfl⟩, heq⟩
            exact ⟨hlength, ⟨hcheck, hrest⟩, (Except.ok.inj heq).symm⟩
          · rintro ⟨hlength, ⟨hcheck, hrest⟩, rfl⟩
            exact ⟨(), hcheck, _, ⟨hlength, hrest, rfl⟩, rfl⟩

theorem get?_zip {fs : List Field} (names : (fs.map Field.name).Nodup) {items : List Json}
    (hf : fs[place]? = some f) :
    Keyed.get? f.name ((fs.zip items).map fun p => (p.1.name, p.2)) = items[place]? := by
  induction fs generalizing items place with
  | nil => simp at hf
  | cons g fs ih =>
      obtain ⟨hnew, hrest⟩ := List.nodup_cons.mp names
      cases items with
      | nil => simp
      | cons w items =>
          rw [List.zip_cons_cons, List.map_cons, Keyed.get?_cons]
          cases place with
          | zero =>
              obtain rfl : g = f := by simpa using hf
              simp
          | succ place =>
              rw [List.getElem?_cons_succ] at hf ⊢
              have hmem : f.name ∈ fs.map Field.name :=
                List.mem_map_of_mem (List.mem_of_getElem? hf)
              have hne : f.name ≠ g.name := fun heq => hnew (heq ▸ hmem)
              rw [if_neg hne, ih hrest hf]

/-! ## values -/

theorem format_getElem?_eq_some_iff {slot : Slot} : l.format[place]? = some slot ↔
    ∃ f, l.fields[place]? = some f ∧
      { keys := f.keys, takes := fun w => f.check w = .ok () } = slot := by
  rw [format, List.getElem?_map, Option.map_eq_some_iff]

/-- To follow the format of a layout, field by field. -/
theorem follows_format_iff : v.Follows l.format ↔
    ((∃ members, v = .obj members) ∨ ∃ items, v = .arr items ∧ items.length ≤ l.fields.length) ∧
      ∀ place f, l.fields[place]? = some f → (v.held f.keys place).length ≤ 1 ∧
        ∀ w ∈ v.held f.keys place, f.check w = .ok () := by
  have hlength : l.format.length = l.fields.length := List.length_map _
  constructor
  · rintro ⟨outer, once, taken⟩
    refine ⟨hlength ▸ outer, fun place f hf => ?_⟩
    have hslot := format_getElem?_eq_some_iff.mpr ⟨f, hf, rfl⟩
    exact ⟨once place _ hslot, taken place _ hslot⟩
  · rintro ⟨outer, hfields⟩
    refine ⟨hlength.symm ▸ outer, fun place slot hslot => ?_, fun place slot hslot => ?_⟩
    · obtain ⟨f, hf, rfl⟩ := format_getElem?_eq_some_iff.mp hslot
      exact (hfields place f hf).1
    · obtain ⟨f, hf, rfl⟩ := format_getElem?_eq_some_iff.mp hslot
      exact (hfields place f hf).2

/-- **A value is read if and only if it follows the format.** -/
theorem Apart.read_eq_ok_iff (h : l.Apart) :
    (∃ fields, l.read v = .ok fields) ↔ v.Follows l.format := by
  rw [follows_format_iff]
  cases v with
  | obj members =>
      have hread : (∃ fields, l.read (.obj members) = .ok fields) ↔ l.Fits members := by
        simp only [read, readObject, readMembers_eq_ok_iff, exists_eq_left]
      rw [hread, h.fits_iff 0]
      constructor
      · intro hfields
        exact ⟨.inl ⟨members, rfl⟩, fun place f hf => hfields f (List.mem_of_getElem? hf)⟩
      · rintro ⟨-, hfields⟩ f hf
        obtain ⟨place, hplace⟩ := List.mem_iff_getElem?.mp hf
        exact hfields place f hplace
  | arr items =>
      simp only [read, readItems_eq_ok_iff, exists_and_left, exists_eq, and_true]
      constructor
      · rintro ⟨hlength, hchecks⟩
        refine ⟨.inr ⟨items, rfl, hlength⟩, fun place f hf => ⟨?_, fun w hw => ?_⟩⟩
        · exact Option.length_toList_le
        · have hitem : items[place]? = some w := Option.mem_toList.mp hw
          exact hchecks (f, w) (List.mem_of_getElem? (List.getElem?_zip_eq_some.mpr ⟨hf, hitem⟩))
      · rintro ⟨⟨_, ⟨⟩⟩ | ⟨_, ⟨rfl⟩, hlength⟩, hfields⟩
        refine ⟨hlength, fun p hp => ?_⟩
        obtain ⟨place, hplace⟩ := List.mem_iff_getElem?.mp hp
        obtain ⟨hf, hitem⟩ := List.getElem?_zip_eq_some.mp hplace
        exact (hfields place p.1 hf).2 p.2 (Option.mem_toList.mpr hitem)
  | _ => simp [read, readObject]

/-- Under the name of a field is read what the value holds for it. -/
theorem Apart.get?_of_read (h : l.Apart) (hread : l.read v = .ok fields) {name : String}
    {others : List String} (hkeys : (l.fields.map Field.keys)[place]? = some (name :: others)) :
    Keyed.get? name fields = (v.held (name :: others) place).head? := by
  rw [List.getElem?_map, Option.map_eq_some_iff] at hkeys
  obtain ⟨f, hf, hfkeys⟩ := hkeys
  obtain rfl : f.name = name := (List.cons.inj hfkeys).1
  rw [← hfkeys]
  cases v with
  | obj members =>
      obtain ⟨rfl, -⟩ := readMembers_eq_ok_iff.mp hread
      rw [Json.get?_eq_head? _ _ place, h.held_given (List.mem_of_getElem? hf)]
  | arr items =>
      obtain ⟨-, -, rfl⟩ := readItems_eq_ok_iff.mp hread
      rw [get?_zip h.names hf]
      exact Option.head?_toList.symm
  | _ => contradiction

/-- A field that is read as a text is the text that the value holds for it. -/
theorem Apart.textOf_of_read (h : l.Apart) (hread : l.read v = .ok fields) {name : String}
    {others : List String} (hkeys : (l.fields.map Field.keys)[place]? = some (name :: others)) :
    textOf (Keyed.get? name fields) = v.textAt (name :: others) place := by
  rw [h.get?_of_read hread hkeys, Json.textAt]

/-- A field that is read as a list has the items that the value holds for it. -/
theorem Apart.itemsOf_of_read (h : l.Apart) (hread : l.read v = .ok fields) {name : String}
    {others : List String} (hkeys : (l.fields.map Field.keys)[place]? = some (name :: others)) :
    itemsOf (Keyed.get? name fields) = v.itemsAt (name :: others) place := by
  rw [h.get?_of_read hread hkeys, Json.itemsAt]

end Layout

end AlertDesk
