import AlertDesk.Proofs.Layout.Members

/-!
# AlertDesk.Proofs.Layout.ExplicitNull

A field that is given as null against one that is left out.  Taking out the
members that give null to a field (`dropNulls`) takes nothing but nulls out of
what is read, with one exception: a field that is given under two spellings,
and null under one of them (`Clash`).  An object with both members is refused
as giving the field twice; without the null it gives it once.

Main facts:

* `readMembers_dropNulls` — an object reads the same without its nulls, or is
  refused over a clash;
* `readMembers_dropNulls_ne` — without its nulls it is not refused over one.
-/

namespace AlertDesk

/-- Whether a value is null. -/
def Json.isNull : Json → Bool
  | .null => true
  | _ => false

@[simp] theorem Json.isNull_null : Json.null.isNull = true := rfl

theorem Json.isNull_eq_false {v : Json} (h : v ≠ .null) : v.isNull = false := by
  cases v <;> trivial

namespace Layout

variable {l : Layout} {members : List (String × Json)} {seen seen' : List String}
  {nulled : String → Prop} {key name : String} {v : Json} {f : Field}

/-! ## clashes -/

/-- The name of the field that a key names. -/
def name? (l : Layout) (key : String) : Option String := (l.field? key).map Field.name

/-- The members without those that give null to a field. -/
def dropNulls (l : Layout) (members : List (String × Json)) : List (String × Json) :=
  members.filter fun p => !(l.owns p.1 && p.2.isNull)

/-- What was read without the fields that are null. -/
def lessNulls (fields : List (String × Json)) : List (String × Json) :=
  fields.filter fun p => !p.2.isNull

/-- A field is given under two keys, and null under one of them. -/
def Clash (l : Layout) (members : List (String × Json)) (name : String) : Prop :=
  ∃ key key' v, key ≠ key' ∧ l.name? key = some name ∧ l.name? key' = some name ∧
    (key, .null) ∈ members ∧ (key', v) ∈ members

/-- Where every field has one spelling, nothing clashes. -/
theorem Plain.not_clash (h : l.Plain) : ¬ l.Clash members name := by
  rintro ⟨key, key', -, hne, hname, hname', -⟩
  obtain ⟨f, hf, rfl⟩ := Option.map_eq_some_iff.mp hname
  obtain ⟨g, hg, hgname⟩ := Option.map_eq_some_iff.mp hname'
  rw [h.name_eq hf, h.name_eq hg] at hgname
  exact hne hgname.symm

/-- The keys under which a field is given. -/
def keysOf (l : Layout) (name : String) (members : List (String × Json)) : List String :=
  (members.map Prod.fst).filter fun key => l.name? key = some name

theorem mem_keysOf : key ∈ l.keysOf name members ↔
    (∃ v, (key, v) ∈ members) ∧ l.name? key = some name := by
  simp [keysOf]

/-- A field is read as often as there are keys that give it. -/
theorem count_given (l : Layout) (name : String) (members : List (String × Json)) :
    ((l.given members).map Prod.fst).count name = (l.keysOf name members).length := by
  induction members with
  | nil => rfl
  | cons p members ih =>
      obtain ⟨key, v⟩ := p
      cases hf : l.field? key with
      | none => simpa [given_cons_of_none hf, keysOf, name?, hf] using ih
      | some f =>
          by_cases hname : f.name = name
          · simpa [given_cons_of_some hf, keysOf, name?, hf, hname] using ih
          · simpa [given_cons_of_some hf, keysOf, name?, hf, hname] using ih

theorem mem_given : (name, v) ∈ l.given members ↔
    ∃ key, (key, v) ∈ members ∧ l.name? key = some name := by
  simp only [given, name?, List.mem_filterMap, Option.map_eq_some_iff, Prod.exists, Prod.mk.injEq]
  constructor
  · rintro ⟨key, w, hmem, f, hf, rfl, rfl⟩
    exact ⟨key, hmem, f, hf, rfl⟩
  · rintro ⟨key, hmem, f, hf, rfl⟩
    exact ⟨key, v, hmem, f, hf, rfl, rfl⟩

/-- A field that is read twice, once as null, is given under two keys. -/
theorem clash_of_count (hm : (members.map Prod.fst).Nodup)
    (hnull : (name, .null) ∈ l.given members)
    (hcount : 2 ≤ ((l.given members).map Prod.fst).count name) : l.Clash members name := by
  obtain ⟨key, hkey, hname⟩ := mem_given.mp hnull
  rw [count_given] at hcount
  have hnodup : (l.keysOf name members).Nodup := hm.filter _
  obtain ⟨key', hkey', hne⟩ : ∃ key' ∈ l.keysOf name members, key ≠ key' := by
    match hkeys : l.keysOf name members with
    | [] | [_] => simp [hkeys] at hcount
    | a :: b :: rest =>
        rw [hkeys] at hnodup
        have hab : a ≠ b := fun h => by simp [h] at hnodup
        by_cases ha : key = a
        · exact ⟨b, by simp, ha ▸ hab⟩
        · exact ⟨a, by simp, ha⟩
  obtain ⟨⟨v, hv⟩, hname'⟩ := mem_keysOf.mp hkey'
  exact ⟨key, key', v, hne, hname, hname', hkey, hv⟩

/-- A field has two spellings at most. -/
theorem name?_spellings (hl : (l.fields.map Field.name).Nodup) {a b c : String}
    (ha : l.name? a = some name) (hb : l.name? b = some name) (hc : l.name? c = some name) :
    a = b ∨ a = c ∨ b = c := by
  obtain ⟨f, hf, hfname⟩ := Option.map_eq_some_iff.mp ha
  obtain ⟨g, hg, hgname⟩ := Option.map_eq_some_iff.mp hb
  obtain ⟨h, hh, hhname⟩ := Option.map_eq_some_iff.mp hc
  obtain ⟨hfmem, hfa⟩ := spells_of_field? hf
  obtain ⟨hgmem, hgb⟩ := spells_of_field? hg
  obtain ⟨hhmem, hhc⟩ := spells_of_field? hh
  obtain rfl : f = g := List.inj_on_of_nodup_map hl hfmem hgmem (hfname.trans hgname.symm)
  obtain rfl : f = h := List.inj_on_of_nodup_map hl hfmem hhmem (hfname.trans hhname.symm)
  simp only [Field.spells, Bool.or_eq_true, decide_eq_true_eq] at hfa hgb hhc
  grind

/-- Without the null, a field that clashed is given once. -/
theorem Clash.count_dropNulls_le (h : l.Clash members name)
    (hl : (l.fields.map Field.name).Nodup) (hm : (members.map Prod.fst).Nodup) :
    ((l.given (l.dropNulls members)).map Prod.fst).count name ≤ 1 := by
  obtain ⟨key, key', v, hne, hname, hname', hkey, hkey'⟩ := h
  have hdropped : key ∉ l.keysOf name (l.dropNulls members) := by
    intro hmem
    obtain ⟨⟨w, hw⟩, -⟩ := mem_keysOf.mp hmem
    obtain ⟨hw, hkept⟩ := List.mem_filter.mp hw
    have howns : l.owns key = true := by simpa [name?, owns] using Option.isSome_of_eq_some hname
    obtain rfl : w = .null :=
      Option.some.inj ((Keyed.get?_of_mem hm hw).symm.trans (Keyed.get?_of_mem hm hkey))
    simp [howns] at hkept
  have hnodup : (l.keysOf name (l.dropNulls members)).Nodup :=
    (hm.sublist (List.filter_sublist.map Prod.fst)).filter _
  rw [count_given]
  rcases hkeys : l.keysOf name (l.dropNulls members) with _ | ⟨a, _ | ⟨b, rest⟩⟩
  · simp
  · simp
  · rw [hkeys] at hnodup hdropped
    have hspells : ∀ c ∈ a :: b :: rest, l.name? c = some name :=
      fun c hc => (mem_keysOf.mp (hkeys ▸ hc)).2
    obtain rfl | rfl | rfl := name?_spellings hl hname (hspells a (by simp)) (hspells b (by simp))
    · simp at hdropped
    · simp at hdropped
    · simp at hnodup

/-! ## reading without nulls -/

theorem dropNulls_cons_of_none (h : l.field? key = none) :
    l.dropNulls ((key, v) :: members) = (key, v) :: l.dropNulls members := by
  simp [dropNulls, owns, h]

theorem dropNulls_cons_null (h : l.field? key = some f) :
    l.dropNulls ((key, .null) :: members) = l.dropNulls members := by
  simp [dropNulls, owns, h]

theorem dropNulls_cons_of_ne_null (hv : v ≠ .null) :
    l.dropNulls ((key, v) :: members) = (key, v) :: l.dropNulls members := by
  simp [dropNulls, Json.isNull_eq_false hv]

/-- What is read without nulls against what is read with them: the same less the
nulls, unless one of the fields `nulled` is refused, which is twice among `names`. -/
def ReadsAlike (nulled : String → Prop) (names : List String)
    (without full : Except Mismatch (List (String × Json))) : Prop :=
  without = full.map lessNulls ∨
    ∃ name, nulled name ∧ 2 ≤ names.count name ∧ full = .error (.duplicateField name)

namespace ReadsAlike

variable {names names' : List String} {without full : Except Mismatch (List (String × Json))}

/-- A field read as null makes no difference. -/
theorem null (hnames : names.Perm names') (h : ReadsAlike nulled names without full) :
    ReadsAlike nulled names' without (do return (name, .null) :: (← full)) := by
  obtain rfl | ⟨twice, hmem, hcount, rfl⟩ := h
  · left
    cases full <;> simp [bind, Except.bind, pure, Except.pure, Except.map, lessNulls]
  · exact .inr ⟨twice, hmem, hnames.count_eq twice ▸ hcount, rfl⟩

/-- A field read as anything else is read on both sides, or refused on both. -/
theorem value (hnames : names.Perm names') (hv : v ≠ .null) (checked : Except Mismatch Unit)
    (h : ReadsAlike nulled names without full) :
    ReadsAlike nulled names' (do checked; return (name, v) :: (← without))
      (do checked; return (name, v) :: (← full)) := by
  cases checked with
  | error m => exact .inl rfl
  | ok =>
      obtain rfl | ⟨twice, hmem, hcount, rfl⟩ := h
      · left
        cases full <;>
          simp [bind, Except.bind, pure, Except.pure, Except.map, lessNulls,
            Json.isNull_eq_false hv]
      · exact .inr ⟨twice, hmem, hnames.count_eq twice ▸ hcount, rfl⟩

end ReadsAlike

/-- A field that was met before, and once more. -/
theorem two_le_count (hmet : name ∈ seen) (names : List String) :
    2 ≤ (seen ++ name :: names).count name := by
  have hpos : 0 < seen.count name := List.count_pos_iff.mpr hmet
  simp only [List.count_append, List.count_cons_self]
  omega

/-- Behind fields that were met before.  With the nulls (`seen`) these are more than
without them (`seen'`), by fields that are given as null somewhere. -/
theorem readMembers_dropNulls_seen (hcheck : ∀ f ∈ l.fields, f.check .null = .ok ())
    (hnulled : ∀ name, (name, .null) ∈ l.given members → nulled name)
    (hsub : ∀ name ∈ seen', name ∈ seen) (hseen : ∀ name ∈ seen, name ∈ seen' ∨ nulled name) :
    ReadsAlike nulled (seen ++ (l.given members).map Prod.fst)
      (l.readMembers seen' (l.dropNulls members)) (l.readMembers seen members) := by
  induction members generalizing seen seen' with
  | nil => exact .inl rfl
  | cons p members ih =>
      obtain ⟨key, v⟩ := p
      cases hf : l.field? key with
      | none =>
          rw [given_cons_of_none hf] at hnulled ⊢
          rw [dropNulls_cons_of_none hf, readMembers_cons_of_none hf, readMembers_cons_of_none hf]
          exact ih hnulled hsub hseen
      | some f =>
          rw [given_cons_of_some hf] at hnulled ⊢
          have hrest : ∀ name, (name, .null) ∈ l.given members → nulled name :=
            fun name hmem => hnulled name (List.mem_cons_of_mem _ hmem)
          have hname : v = .null → nulled f.name := fun hv => hnulled f.name (by simp [hv])
          by_cases hmet : f.name ∈ seen
          · by_cases hrepeated : v ≠ .null ∧ f.name ∈ seen'
            · rw [dropNulls_cons_of_ne_null hrepeated.1, readMembers_cons_of_seen hf hrepeated.2,
                readMembers_cons_of_seen hf hmet]
              exact .inl rfl
            -- only the nulls make it a repetition
            · refine .inr ⟨f.name, ?_, two_le_count hmet _, readMembers_cons_of_seen hf hmet⟩
              by_cases hv : v = .null
              · exact hname hv
              · exact (hseen f.name hmet).resolve_left fun h => hrepeated ⟨hv, h⟩
          · have hmet' : f.name ∉ seen' := mt (hsub f.name) hmet
            have hperm : (f.name :: seen ++ (l.given members).map Prod.fst).Perm
                (seen ++ f.name :: (l.given members).map Prod.fst) := List.perm_middle.symm
            rw [readMembers_cons_of_new hf hmet]
            by_cases hv : v = .null
            · subst hv
              rw [dropNulls_cons_null hf, hcheck f (spells_of_field? hf).1]
              exact .null hperm (ih hrest (fun name h => List.mem_cons_of_mem _ (hsub name h))
                (List.forall_mem_cons.mpr ⟨.inr (hname rfl), hseen⟩))
            · rw [dropNulls_cons_of_ne_null hv, readMembers_cons_of_new hf hmet']
              refine .value hperm hv _ (ih hrest ?_ ?_)
              · exact List.forall_mem_cons.mpr
                  ⟨List.mem_cons_self, fun name h => List.mem_cons_of_mem _ (hsub name h)⟩
              · exact List.forall_mem_cons.mpr ⟨.inl List.mem_cons_self, fun name h =>
                  (hseen name h).imp_left (List.mem_cons_of_mem _)⟩

/-- **An object reads the same without its nulls**, or it is refused because of a
field that has a null and something else. -/
theorem readMembers_dropNulls (hcheck : ∀ f ∈ l.fields, f.check .null = .ok ())
    (hm : (members.map Prod.fst).Nodup) :
    l.readMembers [] (l.dropNulls members) = (l.readMembers [] members).map lessNulls ∨
      ∃ name, l.Clash members name ∧ l.readMembers [] members = .error (.duplicateField name) := by
  have hread : ReadsAlike (fun name => (name, .null) ∈ l.given members)
      ([] ++ (l.given members).map Prod.fst) (l.readMembers [] (l.dropNulls members))
      (l.readMembers [] members) :=
    readMembers_dropNulls_seen hcheck (fun _ => id) (by simp) (by simp)
  refine hread.imp_right ?_
  rintro ⟨name, hnull, htwice, herr⟩
  exact ⟨name, clash_of_count hm hnull htwice, herr⟩

/-- Who is refused for a repetition gives the field twice. -/
theorem count_of_readMembers_eq_error
    (hcheck : ∀ f ∈ l.fields, ∀ v, f.check v ≠ .error (.duplicateField name))
    (h : l.readMembers seen members = .error (.duplicateField name)) :
    2 ≤ (seen ++ (l.given members).map Prod.fst).count name := by
  induction members generalizing seen with
  | nil => contradiction
  | cons p members ih =>
      obtain ⟨key, v⟩ := p
      cases hf : l.field? key with
      | none =>
          rw [readMembers_cons_of_none hf] at h
          rw [given_cons_of_none hf]
          exact ih h
      | some f =>
          rw [given_cons_of_some hf, List.map_cons]
          by_cases hmet : f.name ∈ seen
          · rw [readMembers_cons_of_seen hf hmet] at h
            obtain rfl : f.name = name := by simpa using h
            exact two_le_count hmet _
          · rw [readMembers_cons_of_new hf hmet, bind_eq_error_iff] at h
            rw [List.perm_middle.count_eq]
            obtain h | ⟨-, -, h⟩ := h
            · exact absurd h (hcheck f (spells_of_field? hf).1 v)
            · obtain h | ⟨rest, -, h⟩ := bind_eq_error_iff.mp h
              · exact ih h
              · contradiction

/-- **Without its nulls an object is not refused over a clash.** -/
theorem readMembers_dropNulls_ne (hl : (l.fields.map Field.name).Nodup)
    (hcheck : ∀ f ∈ l.fields, ∀ v, f.check v ≠ .error (.duplicateField name))
    (hm : (members.map Prod.fst).Nodup) (h : l.Clash members name) :
    l.readMembers [] (l.dropNulls members) ≠ .error (.duplicateField name) := by
  intro herr
  have htwice := count_of_readMembers_eq_error hcheck herr
  have honce := h.count_dropNulls_le hl hm
  rw [List.nil_append] at htwice
  omega

end Layout

end AlertDesk
