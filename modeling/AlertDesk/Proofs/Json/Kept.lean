import AlertDesk.Json.Kept
import AlertDesk.Proofs.Json.Skip
import AlertDesk.Proofs.Text.Utf8

/-!
# AlertDesk.Proofs.Json.Kept

A text that is read with the members kept and a text that is read are the same
texts.  What is read of it is what was kept, each object made ascending, with the
last of the members of one key (`settle`).  When only some members are asked for,
these are read of such a text (`select`), and more texts can be read.

Main facts:

* `items_map`, `members_map` — a change to every value that is read is one to the
  list of them;
* `readChars_eq_settle` — a text is read if it is read with the members kept;
* `selected_of_keptChars` — what is read of a text when some members are asked for.
-/

namespace AlertDesk.Json

/-- A value whose objects down to a depth are made ascending. -/
def settle : (depth : Nat) → Json → Json
  | depth + 1, .arr vs => .arr (vs.map (settle depth))
  | depth + 1, .obj ps => object (ps.map fun p => (p.1, settle depth p.2))
  | _, v => v

/-! ## readers of values -/

section

variable {reader reader' : ValueReader} {f : Json → Json} {fuel : Nat} {r : List Char}

theorem items_map (h : ∀ r, reader' r = (reader r).map (Prod.map f id)) (acc : List Json) :
    items reader' fuel (acc.map f) r =
      (items reader fuel acc r).map (Prod.map (List.map f) id) := by
  induction fuel generalizing acc r with
  | zero => rfl
  | succ fuel ih =>
      have hnext : ∀ acc r, (reader' r >>= fun x => items reader' fuel (x.1 :: acc.map f) x.2) =
          (reader r >>= fun x => items reader fuel (x.1 :: acc) x.2).map
            (Prod.map (List.map f) id) := by
        intro acc r
        rw [h]
        cases reader r with
        | error e => rfl
        | ok x => exact ih (x.1 :: acc)
      simp only [items, List.isEmpty_map]
      split
      · rfl
      · rfl
      · split
        · next hempty =>
            obtain rfl := List.isEmpty_iff.mp hempty
            exact hnext [] _
        · split
          · split
            · rfl
            · rfl
            · exact hnext acc _
          · rfl

theorem member_map (h : ∀ r, reader' r = (reader r).map (Prod.map f id)) (r : List Char) :
    member reader' r = (member reader r).map (Prod.map (Prod.map id f) id) := by
  unfold member
  cases stringText r with
  | error e => rfl
  | ok x =>
      simp only [bind, Except.bind]
      split
      · rfl
      · next rest _ =>
          rw [h]
          cases reader rest <;> rfl
      · rfl

theorem members_map (h : ∀ r, reader' r = (reader r).map (Prod.map f id))
    (acc : List (String × Json)) : members reader' fuel (acc.map (Prod.map id f)) r =
      (members reader fuel acc r).map (Prod.map (List.map (Prod.map id f)) id) := by
  induction fuel generalizing acc r with
  | zero => rfl
  | succ fuel ih =>
      have hnext : ∀ acc r, (member reader' r >>= fun x =>
          members reader' fuel (x.1 :: acc.map (Prod.map id f)) x.2) =
          (member reader r >>= fun x => members reader fuel (x.1 :: acc) x.2).map
            (Prod.map (List.map (Prod.map id f)) id) := by
        intro acc r
        rw [member_map h]
        cases member reader r with
        | error e => rfl
        | ok x => exact ih (x.1 :: acc)
      simp only [members, List.isEmpty_map]
      split
      · rfl
      · rfl
      · split
        · next hempty =>
            obtain rfl := List.isEmpty_iff.mp hempty
            split
            · exact hnext [] _
            · rfl
        · split
          · split
            · rfl
            · exact hnext acc _
            · rfl
            · rfl
          · rfl

end

/-! ## values that are kept -/

variable {depth levels : Nat} {r rest : List Char} {v : Json}

/-- A value that is no list and no object. -/
def IsScalar : Json → Prop
  | .arr _ | .obj _ => False
  | _ => True

theorem settle_of_isScalar (h : v.IsScalar) : settle depth v = v := by
  cases v with
  | arr vs => exact h.elim
  | obj ps => exact h.elim
  | _ => cases depth <;> rfl

theorem isScalar_of_bind {α : Type} {x : Except Fault (α × List Char)} {f : α → Json}
    (hf : ∀ a, (f a).IsScalar) (h : (x >>= fun p => pure (f p.1, p.2)) = .ok (v, rest)) :
    v.IsScalar := by
  obtain ⟨p, -, h⟩ := bind_eq_ok_iff.mp h
  obtain rfl := congrArg Prod.fst (Except.ok.inj h)
  exact hf p.1

theorem isScalar_of_word {x : Except Fault (List Char)} {w : Json} (hw : w.IsScalar)
    (h : (x >>= fun p => pure (w, p)) = .ok (v, rest)) : v.IsScalar := by
  obtain ⟨p, -, h⟩ := bind_eq_ok_iff.mp h
  obtain rfl := congrArg Prod.fst (Except.ok.inj h)
  exact hw

/-- Where there is no room for a list or an object, or none begins, a scalar is read. -/
theorem isScalar_of_value
    (hlist : 2 ≤ levels → ∀ r', skipSpace r ≠ '[' :: r' ∧ skipSpace r ≠ '\x7b' :: r')
    (h : value levels r = .ok (v, rest)) : v.IsScalar := by
  cases levels with
  | zero => contradiction
  | succ levels =>
      have hroom : ∀ r', (skipSpace r = '[' :: r' ∨ skipSpace r = '\x7b' :: r') → levels = 0 := by
        intro r' hr'
        refine Nat.eq_zero_of_not_pos fun hlevels => ?_
        obtain ⟨hl, ho⟩ := hlist (by omega) r'
        exact hr'.elim hl ho
      rw [value] at h
      split at h
      · contradiction
      · exact isScalar_of_word (by trivial) h
      · exact isScalar_of_word (by trivial) h
      · exact isScalar_of_word (by trivial) h
      · exact isScalar_of_bind (fun _ => by trivial) h
      · exact isScalar_of_bind (fun _ => by trivial) h
      · next r' hr' =>
          rw [if_pos (hroom r' (.inl hr'))] at h
          contradiction
      · next r' hr' =>
          rw [if_pos (hroom r' (.inr hr'))] at h
          contradiction
      · split at h
        · exact isScalar_of_bind (fun _ => by trivial) h
        · contradiction

theorem map_settle_of_isScalar {x : Except Fault (Json × List Char)}
    (h : ∀ v rest, x = .ok (v, rest) → v.IsScalar) :
    x = x.map (Prod.map (settle depth) id) := by
  cases x with
  | error e => rfl
  | ok p => rw [Except.map, Prod.map, settle_of_isScalar (h p.1 p.2 rfl)]; rfl

/-- **What is read is what was kept, settled.** -/
theorem value_eq_settle (depth levels : Nat) (r : List Char) :
    value levels r = (kept depth levels r).map (Prod.map (settle depth) id) := by
  induction depth generalizing levels r with
  | zero =>
      rw [kept]
      · cases value levels r with
        | error e => rfl
        | ok p => rfl
      · simp
  | succ depth ih =>
      match levels with
      | 0 => rfl
      | 1 => exact map_settle_of_isScalar fun v rest => isScalar_of_value (by omega)
      | levels + 2 =>
          have hread : ∀ r, value (levels + 1) r =
              (kept depth (levels + 1) r).map (Prod.map (settle depth) id) := ih (levels + 1)
          rw [kept]
          split
          · next r' hr' =>
              have hitems : items (value (levels + 1)) (r'.length + 1) [] r' =
                  (items (kept depth (levels + 1)) (r'.length + 1) [] r').map
                    (Prod.map (List.map (settle depth)) id) := items_map hread []
              rw [value, hr']
              simp only [Nat.add_eq_zero_iff, Nat.succ_ne_self, and_false, if_false, hitems]
              cases items (kept depth (levels + 1)) (r'.length + 1) [] r' with
              | error e => rfl
              | ok p => simp [Except.map, bind, Except.bind, pure, Except.pure, settle]
          · next r' hr' =>
              have hmembers : members (value (levels + 1)) (r'.length + 1) [] r' =
                  (members (kept depth (levels + 1)) (r'.length + 1) [] r').map
                    (Prod.map (List.map (Prod.map id (settle depth))) id) := members_map hread []
              rw [value, hr']
              simp only [Nat.add_eq_zero_iff, Nat.succ_ne_self, and_false, if_false, hmembers]
              cases members (kept depth (levels + 1)) (r'.length + 1) [] r' with
              | error e => rfl
              | ok p =>
                  have hpair : (fun q : String × Json => (q.1, settle depth q.2)) =
                      Prod.map id (settle depth) := rfl
                  simp [Except.map, bind, Except.bind, pure, Except.pure, settle, hpair]
          · next hlist hobject =>
              refine map_settle_of_isScalar fun v rest => isScalar_of_value fun _ r' => ?_
              exact ⟨fun h => hlist r' h, fun h => hobject r' h⟩

/-- **A text is read if it is read with the members kept**, and stands for what
was kept, settled. -/
theorem readChars_eq_settle (cs : List Char) : readChars cs = (keptChars cs).map (settle 2) := by
  rw [readChars, keptChars, value_eq_settle 2]
  cases kept 2 128 cs with
  | error e => rfl
  | ok p =>
      simp only [Except.map, bind, Except.bind, Prod.map, id]
      cases skipSpace p.2 <;> rfl

/-! ## members that are asked for -/

variable {asked : String → Bool} {cs : List Char}

/-- A value of whose members only those that are asked for are left. -/
def select (asked : String → Bool) : Json → Json
  | .obj ps => .obj (ps.filter fun p => asked p.1)
  | v => v

theorem select_of_isScalar {v : Json} (h : v.IsScalar) : select asked v = v := by
  cases v with
  | obj ps => exact h.elim
  | _ => rfl

theorem frontChars_map (r : List Char) : frontChars (r.map some) = r := by
  induction r with
  | nil => rfl
  | cons c r ih => rw [List.map_cons, frontChars, ih]

theorem dropWhile_isSome_map (r : List Char) : (r.map some).dropWhile Option.isSome = [] := by
  induction r with
  | nil => rfl
  | cons c r ih => rw [List.map_cons, List.dropWhile_cons_of_pos rfl, ih]

/-- Of a text that is made of characters is read what the reader reads. -/
theorem readFront_map {α : Type} {reader : List Char → Except Fault (α × List Char)} {a : α}
    (h : reader r = .ok (a, rest)) : readFront reader (r.map some) = some (a, rest.map some) := by
  simp [readFront, frontChars_map, h, dropWhile_isSome_map]

/-- A value whose members are kept is passed over as one that is read. -/
theorem kept_tracks (depth levels length : Nat) :
    Skip.Tracks length (Skip.value length) (kept depth levels) := by
  intro r v rest hlength h
  refine Skip.value_tracks levels length r (settle depth v) rest hlength ?_
  rw [value_eq_settle depth, h]
  rfl

/-- A member that is read is read if it is asked for, and passed over if not. -/
theorem selectMember_of_member {ps : List (String × Json)} {p : String × Json}
    (h : member (kept depth levels) r = .ok (p, rest)) :
    selectMember asked (kept depth levels) (ps.filter fun q => asked q.1) (('"' :: r).map some) =
      some ((p :: ps).filter fun q => asked q.1, rest.map some) := by
  obtain ⟨⟨key, r₁⟩, hkey, h⟩ := bind_eq_ok_iff.mp h
  dsimp only at h
  split at h
  · contradiction
  · next r₂ hr₂ =>
      obtain ⟨⟨v, r₃⟩, hv, h⟩ := bind_eq_ok_iff.mp h
      obtain ⟨rfl, rfl⟩ := Prod.mk.inj (Except.ok.inj h)
      have hskip : Skip.value r₂.length (r₂.map some) = some (r₃.map some) :=
        (kept_tracks depth levels _ r₂ v r₃ (Nat.le_refl _) hv).1
      by_cases hasked : asked key = true
      · simp [selectMember, readFront_map hkey, Skip.space_map, hr₂, hasked, readFront_map hv]
      · simp [selectMember, readFront_map hkey, Skip.space_map, hr₂, hasked, hskip]
  · contradiction

theorem whole_map {read : List Char → Except Fault Json} {v : Json} (h : read cs = .ok v) :
    whole read (cs.map some) = some v := by
  rw [whole, Text.Utf8.mapM_id_eq_some_iff.mpr rfl, Option.bind_some, h]
  rfl

/-- What is no object is read as a whole. -/
theorem selected_of_not_object (h : ∀ r, skipSpace cs ≠ '\x7b' :: r) :
    selected asked (cs.map some) = whole keptChars (cs.map some) := by
  rw [selected, Skip.space_map]
  split
  · next r hr =>
      obtain ⟨c, r', hr', hc, -⟩ := List.map_eq_cons_iff.mp hr
      obtain rfl := Option.some.inj hc
      exact absurd hr' (h r')
  · rfl

/-- **What is read of a text of which some members are asked for** are these members,
if it can be read with all of them. -/
theorem selected_of_keptChars {v : Json} (h : keptChars cs = .ok v) :
    selected asked (cs.map some) = some (select asked v) := by
  obtain ⟨⟨w, rest⟩, hkept, hend⟩ := bind_eq_ok_iff.mp h
  dsimp only at hend
  have hrest : skipSpace rest = [] ∧ w = v := by
    split at hend
    · next hnil => exact ⟨hnil, Except.ok.inj hend⟩
    · contradiction
  obtain ⟨hnil, rfl⟩ := hrest
  change kept (1 + 1) (126 + 2) cs = .ok (w, rest) at hkept
  rw [kept] at hkept
  split at hkept
  · next r hr =>
      obtain ⟨vs, -, rfl⟩ := Skip.read_of_bind (f := fun vs : List Json => arr vs.reverse) hkept
      rw [selected_of_not_object (by simp [hr]), whole_map h]
      rfl
  · next r hr =>
      obtain ⟨ps, hps, rfl⟩ :=
        Skip.read_of_bind (f := fun ps : List (String × Json) => obj ps.reverse) hkept
      obtain ⟨hparts, -⟩ := Skip.parts_of_members (selectMember asked (kept 1 127))
        (List.filter fun q => asked q.1)
        (fun ps r p rest hr hp => ⟨selectMember_of_member hp,
          (Skip.member_tracks (kept_tracks 1 127 r.length) (Nat.le_refl _) hp).2⟩)
        (Nat.le_refl r.length) hps
      rw [List.isEmpty_nil, List.filter_nil] at hparts
      simp [selected, Skip.space_map, hr, hparts, hnil, select]
  · next hlist hobject =>
      have hscalar := isScalar_of_value (fun _ r' => ⟨hlist r', hobject r'⟩) hkept
      rw [selected_of_not_object hobject, whole_map h, select_of_isScalar hscalar]

end AlertDesk.Json
