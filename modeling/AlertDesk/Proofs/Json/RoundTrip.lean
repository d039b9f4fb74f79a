import AlertDesk.Proofs.Json.Readable
import AlertDesk.Proofs.Json.Text

/-!
# AlertDesk.Proofs.Json.RoundTrip

Reading a JSON text that was printed gives the value back, if the value is within
the limits of the reader and has no doubles (`HasReal`).  Blanks may stand behind
the text.

A value in a longer text is followed by a line break, a comma or a blank, so that
nothing goes on with a number at its end.  What the reader of lists and that of
objects need of the reader of values is `ReadsBack`; `readsBack` is then an
induction on the depth, from one level to the next.

Main fact: `read?_pretty`.
-/

namespace AlertDesk.Json

/-- A double occurs in the value. -/
inductive HasReal : Json → Prop
  | num (x : Binary64) : HasReal (.num (.real x))
  | item {v : Json} {items : List Json} (hv : v ∈ items) (h : HasReal v) : HasReal (.arr items)
  | member {p : String × Json} {members : List (String × Json)} (hp : p ∈ members)
      (h : HasReal p.2) : HasReal (.obj members)

/-! ## what is read back -/

/-- Blanks in front are passed over. -/
theorem skipSpace_append {blanks : List Char} (h : ∀ c ∈ blanks, isSpace c = true)
    (r : List Char) : skipSpace (blanks ++ r) = skipSpace r :=
  List.dropWhile_append_of_pos h

theorem skipSpace_cons {c : Char} (h : isSpace c = false) (r : List Char) :
    skipSpace (c :: r) = c :: r := by
  rw [skipSpace, List.dropWhile_cons_of_neg (by simp [h])]

theorem isSpace_newLine (level : Nat) : ∀ c ∈ newLine level, isSpace c = true := by
  intro c hc
  obtain rfl | hc := List.mem_cons.mp hc
  · rfl
  · rw [List.eq_of_mem_replicate hc]
    rfl

/-- A blank or a comma ends a number. -/
theorem endsNumber_cons {c : Char} (h : isSpace c = true ∨ c = ',') (r : List Char) :
    EndsNumber (c :: r) := by
  intro d hd
  obtain rfl := Option.some.inj hd
  simp only [isSpace, Bool.or_eq_true, decide_eq_true_eq] at h
  obtain (((rfl | rfl) | rfl) | rfl) | rfl := h <;> decide

theorem endsNumber_newLine (level : Nat) (r : List Char) : EndsNumber (newLine level ++ r) :=
  endsNumber_cons (.inl rfl) _

/-- The text of an integer that is not negative begins with a digit. -/
theorem exists_repr_eq_cons (n : Nat) :
    ∃ c cs, (Nat.repr n).toList = c :: cs ∧ c.isDigit = true := by
  rw [Nat.repr_eq_ofList_toDigits, String.toList_ofList]
  cases hcs : Nat.toDigits 10 n with
  | nil => exact absurd hcs Nat.toDigits_ne_nil
  | cons c cs =>
      refine ⟨c, cs, rfl, Nat.isDigit_of_mem_toDigits (b := 10) (n := n) (by decide) (by decide) ?_⟩
      rw [hcs]
      exact List.mem_cons_self

theorem isSpace_of_isDigit {c : Char} (h : c.isDigit = true) : isSpace c = false := by
  rw [Bool.eq_false_iff]
  intro hspace
  simp only [isSpace, Bool.or_eq_true, decide_eq_true_eq] at hspace
  obtain ((rfl | rfl) | rfl) | rfl := hspace <;> contradiction

theorem value_num {i : Int} (fits : (Number.int i).InRange) (depth : Nat) {rest : List Char}
    (ends : EndsNumber rest) :
    value (depth + 1) ((Number.int i).text.toList ++ rest) = .ok (.num (.int i), rest) := by
  have hnumber := number_natAbs fits ends
  by_cases hi : i < 0
  · have htext : (Number.int i).text.toList = '-' :: (Nat.repr i.natAbs).toList := by
      simp [Number.text, hi]
    rw [decide_eq_true hi] at hnumber
    rw [htext, List.cons_append, value, skipSpace_cons rfl]
    simp only [hnumber, bind, Except.bind, pure, Except.pure]
  · have htext : (Number.int i).text.toList = (Nat.repr i.natAbs).toList := by
      simp [Number.text, hi]
    rw [decide_eq_false hi] at hnumber
    obtain ⟨c, cs, hcons, hdigit⟩ := exists_repr_eq_cons i.natAbs
    rw [hcons, List.cons_append] at hnumber
    rw [htext, hcons, List.cons_append, value.eq_def]
    simp only [skipSpace_cons (isSpace_of_isDigit hdigit)]
    split
    case h_9 heq =>
      obtain ⟨rfl, rfl⟩ := List.cons.inj heq
      simp only [digit?_of_isDigit hdigit, hnumber, bind, Except.bind, pure, Except.pure,
        Option.isSome_some, if_true]
    case h_1 heq => contradiction
    all_goals
      next heq =>
        obtain ⟨rfl, -⟩ := List.cons.inj heq
        contradiction

/-- The text of a value begins with a character that is no blank and ends no list. -/
theorem exists_prettyChars_eq_cons {v : Json} (h : ¬ HasReal v) (level : Nat) :
    ∃ c cs, prettyChars level v = c :: cs ∧ isSpace c = false ∧ c ≠ ']' := by
  cases v with
  | null => exact ⟨'n', _, rfl, rfl, by decide⟩
  | bool b =>
      cases b with
      | true => exact ⟨'t', _, rfl, rfl, by decide⟩
      | false => exact ⟨'f', _, rfl, rfl, by decide⟩
  | num x =>
      cases x with
      | real x => exact absurd (.num x) h
      | int i =>
          obtain ⟨c, cs, hcons, hdigit⟩ := exists_repr_eq_cons i.natAbs
          by_cases hi : i < 0
          · refine ⟨'-', (Nat.repr i.natAbs).toList, ?_, rfl, by decide⟩
            simp [prettyChars, Number.text, hi]
          · refine ⟨c, cs, ?_, isSpace_of_isDigit hdigit, fun heq => ?_⟩
            · simp [prettyChars, Number.text, hi, hcons]
            · rw [heq] at hdigit
              contradiction
  | str s => exact ⟨'"', _, rfl, rfl, by decide⟩
  | arr items =>
      cases items with
      | nil => exact ⟨'[', _, rfl, rfl, by decide⟩
      | cons v r => exact ⟨'[', _, rfl, rfl, by decide⟩
  | obj members =>
      cases members with
      | nil => exact ⟨'\x7b', _, rfl, rfl, by decide⟩
      | cons p r => exact ⟨'\x7b', _, rfl, rfl, by decide⟩

/-- What stands behind the first item of a list. -/
def itemsBehind (level : Nat) (vs : List Json) : List Char :=
  vs.flatMap fun v => ',' :: newLine level ++ prettyChars level v

theorem prettyItems_cons (level : Nat) (v : Json) (vs : List Json) :
    prettyItems level (v :: vs) = prettyChars level v ++ itemsBehind level vs := by
  induction vs generalizing v with
  | nil => simp [prettyItems, itemsBehind]
  | cons w vs ih =>
      rw [prettyItems, ih w]
      · simp [itemsBehind]
      · simp

/-- What stands behind the first member of an object. -/
def membersBehind (level : Nat) (ps : List (String × Json)) : List Char :=
  ps.flatMap fun p =>
    ',' :: newLine level ++ stringChars p.1 ++ ':' :: ' ' :: prettyChars level p.2

theorem prettyMembers_cons (level : Nat) (p : String × Json) (ps : List (String × Json)) :
    prettyMembers level (p :: ps) =
      stringChars p.1 ++ ':' :: ' ' :: prettyChars level p.2 ++ membersBehind level ps := by
  induction ps generalizing p with
  | nil => simp [prettyMembers, membersBehind]
  | cons q ps ih =>
      rw [prettyMembers, ih q]
      · simp [membersBehind]
      · simp

section

variable {reader : ValueReader} {level : Nat}

/-- The text begins like a value and is read as `v`, whatever stands behind it. -/
structure ReadsBack (reader : ValueReader) (text : List Char) (v : Json) : Prop where
  begins : ∃ c cs, text = c :: cs ∧ isSpace c = false ∧ c ≠ ']'
  back : ∀ rest, EndsNumber rest → reader (text ++ rest) = .ok (v, rest)

theorem endsNumber_itemsBehind (level : Nat) (vs : List Json) (outer : Nat) (rest : List Char) :
    EndsNumber (itemsBehind level vs ++ (newLine outer ++ rest)) := by
  cases vs with
  | nil => exact endsNumber_newLine outer rest
  | cons v vs => exact endsNumber_cons (.inr rfl) _

variable {fuel : Nat} {c : Char} {r rest : List Char} {v : Json} {acc : List Json}

theorem items_close (outer : Nat) (rest : List Char) :
    items reader (fuel + 1) acc (newLine outer ++ ']' :: rest) = .ok (acc, rest) := by
  simp only [items, skipSpace_append (isSpace_newLine outer)]
  rfl

/-- The first item of a list stands behind blanks. -/
theorem items_first (hskip : skipSpace r = c :: rest) (hbracket : c ≠ ']')
    {next : List Char} (hread : reader (c :: rest) = .ok (v, next)) :
    items reader (fuel + 1) [] r = items reader fuel [v] next := by
  rw [items.eq_def]
  simp only [hskip, List.isEmpty_nil, if_true, hread]
  rfl

/-- Every other one stands behind a comma. -/
theorem items_next (hacc : acc ≠ []) (hskip : skipSpace r = c :: rest) (hbracket : c ≠ ']')
    {next : List Char} (hread : reader (c :: rest) = .ok (v, next)) :
    items reader (fuel + 1) acc (',' :: r) = items reader fuel (v :: acc) next := by
  have hcomma : skipSpace (',' :: r) = ',' :: r := skipSpace_cons rfl r
  have hempty : acc.isEmpty = false := List.isEmpty_eq_false_iff.mpr hacc
  rw [items.eq_def]
  simp only [hcomma]
  split
  · contradiction
  · next heq => exact absurd (List.cons.inj heq).1 (by decide)
  · next heq =>
      obtain ⟨rfl, rfl⟩ := List.cons.inj heq
      simp only [hempty, Bool.false_eq_true, if_false, if_true, hskip]
      split
      · contradiction
      · next heq => exact absurd (List.cons.inj heq).1 hbracket
      · rw [hread]
        rfl

/-- The rest of a list is read back. -/
theorem items_itemsBehind {vs : List Json}
    (hread : ∀ v ∈ vs, ReadsBack reader (prettyChars level v) v) {fuel : Nat}
    (enough : vs.length < fuel) {acc : List Json} (hacc : acc ≠ []) (outer : Nat)
    (rest : List Char) :
    items reader fuel acc (itemsBehind level vs ++ (newLine outer ++ ']' :: rest)) =
      .ok (vs.reverse ++ acc, rest) := by
  induction vs generalizing fuel acc with
  | nil =>
      obtain ⟨fuel, rfl⟩ := Nat.exists_eq_add_one_of_ne_zero (Nat.ne_zero_of_lt enough)
      exact items_close outer rest
  | cons v vs ih =>
      obtain ⟨fuel, rfl⟩ := Nat.exists_eq_add_one_of_ne_zero (Nat.ne_zero_of_lt enough)
      obtain ⟨⟨c, cs, hcons, hspace, hbracket⟩, hback⟩ := hread v List.mem_cons_self
      have hrest := hback _ (endsNumber_itemsBehind level vs outer (']' :: rest))
      have hnext := ih (fun w hw => hread w (List.mem_cons_of_mem v hw))
        (Nat.lt_of_succ_lt_succ enough) (List.cons_ne_nil v acc)
      have htext : itemsBehind level (v :: vs) ++ (newLine outer ++ ']' :: rest) =
          ',' :: (newLine level ++ (prettyChars level v ++
            (itemsBehind level vs ++ (newLine outer ++ ']' :: rest)))) := by
        simp [itemsBehind]
      rw [hcons, List.cons_append] at hrest
      have hskip := skipSpace_append (isSpace_newLine level)
        (c :: (cs ++ (itemsBehind level vs ++ (newLine outer ++ ']' :: rest))))
      rw [skipSpace_cons hspace] at hskip
      rw [htext, hcons, List.cons_append, items_next hacc hskip hbracket hrest, hnext]
      simp

/-- **The items of a list are read back.** -/
theorem items_prettyItems {vs : List Json}
    (hread : ∀ v ∈ vs, ReadsBack reader (prettyChars level v) v) (hvs : vs ≠ []) {fuel : Nat}
    (enough : vs.length < fuel) (outer : Nat) (rest : List Char) :
    items reader fuel [] (newLine level ++ (prettyItems level vs ++
      (newLine outer ++ ']' :: rest))) = .ok (vs.reverse, rest) := by
  cases vs with
  | nil => contradiction
  | cons v vs =>
      obtain ⟨fuel, rfl⟩ := Nat.exists_eq_add_one_of_ne_zero (Nat.ne_zero_of_lt enough)
      obtain ⟨⟨c, cs, hcons, hspace, hbracket⟩, hback⟩ := hread v List.mem_cons_self
      have hrest := hback _ (endsNumber_itemsBehind level vs outer (']' :: rest))
      have hbehind := items_itemsBehind (fun w hw => hread w (List.mem_cons_of_mem v hw))
        (Nat.lt_of_succ_lt_succ enough) (List.cons_ne_nil v []) outer rest
      rw [hcons, List.cons_append] at hrest
      have hskip := skipSpace_append (isSpace_newLine level)
        (c :: (cs ++ (itemsBehind level vs ++ (newLine outer ++ ']' :: rest))))
      rw [skipSpace_cons hspace] at hskip
      rw [prettyItems_cons, hcons, List.append_assoc, List.cons_append,
        items_first hskip hbracket hrest, hbehind]
      simp

/-! ### members -/

theorem endsNumber_membersBehind (level : Nat) (ps : List (String × Json)) (outer : Nat)
    (rest : List Char) : EndsNumber (membersBehind level ps ++ (newLine outer ++ rest)) := by
  cases ps with
  | nil => exact endsNumber_newLine outer rest
  | cons p ps => exact endsNumber_cons (.inr rfl) _

/-- The reader passes over a blank. -/
def PassesBlank (reader : ValueReader) : Prop := ∀ r, reader (' ' :: r) = reader r

/-- A member is read back behind the quote of its key. -/
theorem member_back (hblank : PassesBlank reader) {p : String × Json}
    (hread : ReadsBack reader (prettyChars level p.2) p.2) (ends : EndsNumber rest) :
    member reader (p.1.toList.flatMap escapeChar ++ '"' :: ':' :: ' ' ::
      (prettyChars level p.2 ++ rest)) = .ok (p, rest) := by
  have hcolon (r : List Char) : skipSpace (':' :: r) = ':' :: r := skipSpace_cons rfl r
  simp only [member, stringText_flatMap, bind, Except.bind, hcolon, hblank _, hread.back _ ends,
    pure, Except.pure]

variable {ps acc : List (String × Json)} {p : String × Json}

theorem members_close (outer : Nat) (rest : List Char) :
    members reader (fuel + 1) acc (newLine outer ++ '\x7d' :: rest) = .ok (acc, rest) := by
  simp only [members, skipSpace_append (isSpace_newLine outer)]
  rfl

theorem members_first (hskip : skipSpace r = '"' :: rest) {next : List Char}
    (hread : member reader rest = .ok (p, next)) :
    members reader (fuel + 1) [] r = members reader fuel [p] next := by
  rw [members.eq_def]
  simp only [hskip]
  split
  · contradiction
  · next heq => exact absurd (List.cons.inj heq).1 (by decide)
  · next heq =>
      obtain ⟨rfl, rfl⟩ := List.cons.inj heq
      simp only [List.isEmpty_nil, if_true, hread]
      rfl

theorem members_next (hacc : acc ≠ []) (hskip : skipSpace r = '"' :: rest) {next : List Char}
    (hread : member reader rest = .ok (p, next)) :
    members reader (fuel + 1) acc (',' :: r) = members reader fuel (p :: acc) next := by
  have hcomma : skipSpace (',' :: r) = ',' :: r := skipSpace_cons rfl r
  have hempty : acc.isEmpty = false := List.isEmpty_eq_false_iff.mpr hacc
  rw [members.eq_def]
  simp only [hcomma]
  split
  · contradiction
  · next heq => exact absurd (List.cons.inj heq).1 (by decide)
  · next heq =>
      obtain ⟨rfl, rfl⟩ := List.cons.inj heq
      simp only [hempty, Bool.false_eq_true, if_false, if_true, hskip, hread]
      rfl

/-- The rest of an object is read back. -/
theorem members_membersBehind (hblank : PassesBlank reader)
    (hread : ∀ p ∈ ps, ReadsBack reader (prettyChars level p.2) p.2) {fuel : Nat}
    (enough : ps.length < fuel) (hacc : acc ≠ []) (outer : Nat) (rest : List Char) :
    members reader fuel acc (membersBehind level ps ++ (newLine outer ++ '\x7d' :: rest)) =
      .ok (ps.reverse ++ acc, rest) := by
  induction ps generalizing fuel acc with
  | nil =>
      obtain ⟨fuel, rfl⟩ := Nat.exists_eq_add_one_of_ne_zero (Nat.ne_zero_of_lt enough)
      exact members_close outer rest
  | cons p ps ih =>
      obtain ⟨fuel, rfl⟩ := Nat.exists_eq_add_one_of_ne_zero (Nat.ne_zero_of_lt enough)
      have hmember := member_back hblank (hread p List.mem_cons_self)
        (endsNumber_membersBehind level ps outer ('\x7d' :: rest))
      have hnext := ih (fun q hq => hread q (List.mem_cons_of_mem p hq))
        (Nat.lt_of_succ_lt_succ enough) (List.cons_ne_nil p acc)
      have htext : membersBehind level (p :: ps) ++ (newLine outer ++ '\x7d' :: rest) =
          ',' :: (newLine level ++ '"' :: (p.1.toList.flatMap escapeChar ++ '"' :: ':' :: ' ' ::
            (prettyChars level p.2 ++
              (membersBehind level ps ++ (newLine outer ++ '\x7d' :: rest))))) := by
        simp [membersBehind, stringChars]
      rw [htext, members_next hacc (skipSpace_append (isSpace_newLine level) _) hmember, hnext]
      simp

/-- **The members of an object are read back.** -/
theorem members_prettyMembers (hblank : PassesBlank reader)
    (hread : ∀ p ∈ ps, ReadsBack reader (prettyChars level p.2) p.2) (hps : ps ≠ []) {fuel : Nat}
    (enough : ps.length < fuel) (outer : Nat) (rest : List Char) :
    members reader fuel [] (newLine level ++ (prettyMembers level ps ++
      (newLine outer ++ '\x7d' :: rest))) = .ok (ps.reverse, rest) := by
  cases ps with
  | nil => contradiction
  | cons p ps =>
      obtain ⟨fuel, rfl⟩ := Nat.exists_eq_add_one_of_ne_zero (Nat.ne_zero_of_lt enough)
      have hmember := member_back hblank (hread p List.mem_cons_self)
        (endsNumber_membersBehind level ps outer ('\x7d' :: rest))
      have hbehind := members_membersBehind hblank
        (fun q hq => hread q (List.mem_cons_of_mem p hq)) (Nat.lt_of_succ_lt_succ enough)
        (List.cons_ne_nil p []) outer rest
      have htext : prettyMembers level (p :: ps) ++ (newLine outer ++ '\x7d' :: rest) =
          '"' :: (p.1.toList.flatMap escapeChar ++ '"' :: ':' :: ' ' ::
            (prettyChars level p.2 ++
              (membersBehind level ps ++ (newLine outer ++ '\x7d' :: rest)))) := by
        simp [prettyMembers_cons, stringChars]
      rw [htext, members_first (skipSpace_append (isSpace_newLine level) _) hmember, hbehind]
      simp

end

/-! ### values -/

theorem value_blank (depth : Nat) : PassesBlank (value (depth + 1)) := by
  intro r
  rw [value, value]
  rfl

section

variable {depth : Nat} {r rest : List Char}

/-- A value that is no container is read back at any depth. -/
theorem value_scalar {v : Json} {level : Nat} (readable : Readable depth v) (whole : ¬ HasReal v)
    (harr : ∀ vs, v ≠ .arr vs) (hobj : ∀ ps, v ≠ .obj ps) (ends : EndsNumber rest) :
    value (depth + 1) (prettyChars level v ++ rest) = .ok (v, rest) := by
  cases v with
  | null =>
      rw [value]
      rfl
  | bool b =>
      rw [value]
      cases b <;> rfl
  | num x =>
      cases x with
      | real x => exact absurd (.num x) whole
      | int i => exact value_num ((readable_num depth _).mp readable) depth ends
  | str s =>
      have htext : prettyChars level (.str s) ++ rest =
          '"' :: (s.toList.flatMap escapeChar ++ '"' :: rest) := by
        simp [prettyChars, stringChars]
      rw [htext, value, skipSpace_cons rfl]
      simp only [stringText_flatMap, bind, Except.bind, pure, Except.pure]
  | arr vs => exact absurd rfl (harr vs)
  | obj ps => exact absurd rfl (hobj ps)

theorem value_arr {vs : List Json}
    (h : items (value (depth + 1)) (r.length + 1) [] r = .ok (vs, rest)) :
    value (depth + 2) ('[' :: r) = .ok (.arr vs.reverse, rest) := by
  rw [value, skipSpace_cons rfl]
  simp only [Nat.add_one_ne_zero, if_false, h, bind, Except.bind, pure, Except.pure]

theorem value_obj {ps : List (String × Json)}
    (h : members (value (depth + 1)) (r.length + 1) [] r = .ok (ps, rest)) :
    value (depth + 2) ('\x7b' :: r) = .ok (object ps.reverse, rest) := by
  rw [value, skipSpace_cons rfl]
  simp only [Nat.add_one_ne_zero, if_false, h, bind, Except.bind, pure, Except.pure]

/-- No list has more items than its text has characters, and no object more members. -/
theorem length_le_prettyItems {level : Nat} {vs : List Json}
    (hread : ∀ v ∈ vs, ReadsBack (value depth) (prettyChars level v) v) :
    vs.length ≤ (prettyItems level vs).length := by
  cases vs with
  | nil => exact Nat.le_refl _
  | cons v vs =>
      obtain ⟨⟨c, cs, hcons, -⟩, -⟩ := hread v List.mem_cons_self
      have hbehind : vs.length ≤ (itemsBehind level vs).length :=
        length_le_flatMap (fun v => List.cons_ne_nil _ _) vs
      rw [prettyItems_cons, hcons, List.length_append, List.length_cons, List.length_cons]
      omega

theorem length_le_prettyMembers (level : Nat) (ps : List (String × Json)) :
    ps.length ≤ (prettyMembers level ps).length := by
  cases ps with
  | nil => exact Nat.le_refl _
  | cons p ps =>
      have hbehind : ps.length ≤ (membersBehind level ps).length :=
        length_le_flatMap (fun p => List.cons_ne_nil _ _) ps
      rw [prettyMembers_cons, List.length_append, List.length_append, List.length_cons,
        List.length_cons]
      omega

/-- A list is read back if its items are. -/
theorem value_prettyChars_arr {level : Nat} {vs : List Json}
    (hread : ∀ v ∈ vs, ReadsBack (value (depth + 1)) (prettyChars (level + 1) v) v)
    (rest : List Char) :
    value (depth + 2) (prettyChars level (.arr vs) ++ rest) = .ok (.arr vs, rest) := by
  cases vs with
  | nil =>
      have hempty : items (value (depth + 1)) ((']' :: rest).length + 1) [] (']' :: rest) =
          .ok ([], rest) := rfl
      exact value_arr hempty
  | cons v vs =>
      have htext : prettyChars level (.arr (v :: vs)) ++ rest =
          '[' :: (newLine (level + 1) ++ (prettyItems (level + 1) (v :: vs) ++
            (newLine level ++ ']' :: rest))) := by
        simp [prettyChars]
      have hlength := length_le_prettyItems hread
      rw [htext, value_arr (items_prettyItems hread (List.cons_ne_nil v vs) ?_ level rest),
        List.reverse_reverse]
      simp only [List.length_append] at hlength ⊢
      omega

/-- An object is read back if its members ascend and are read back. -/
theorem value_prettyChars_obj {level : Nat} {ps : List (String × Json)}
    (ascending : Keyed.Ascending ps)
    (hread : ∀ p ∈ ps, ReadsBack (value (depth + 1)) (prettyChars (level + 1) p.2) p.2)
    (rest : List Char) :
    value (depth + 2) (prettyChars level (.obj ps) ++ rest) = .ok (.obj ps, rest) := by
  cases ps with
  | nil =>
      have hempty : members (value (depth + 1)) (('\x7d' :: rest).length + 1) []
          ('\x7d' :: rest) = .ok ([], rest) := rfl
      exact value_obj hempty
  | cons p ps =>
      have htext : prettyChars level (.obj (p :: ps)) ++ rest =
          '\x7b' :: (newLine (level + 1) ++ (prettyMembers (level + 1) (p :: ps) ++
            (newLine level ++ '\x7d' :: rest))) := by
        simp [prettyChars]
      have hlength := length_le_prettyMembers (level + 1) (p :: ps)
      rw [htext, value_obj (members_prettyMembers (value_blank depth) hread
        (List.cons_ne_nil p ps) ?_ level rest), List.reverse_reverse, object,
        Keyed.ofList_eq_self ascending]
      simp only [List.length_append] at hlength ⊢
      omega

end

/-- **A value within the limits is read back from its text**, unless it has a double. -/
theorem readsBack {depth : Nat} {v : Json} (readable : Readable depth v) (whole : ¬ HasReal v)
    (level : Nat) : ReadsBack (value (depth + 1)) (prettyChars level v) v := by
  refine ⟨exists_prettyChars_eq_cons whole level, fun rest ends => ?_⟩
  -- what a container holds is one level further down
  induction depth generalizing v level rest with
  | zero =>
      cases v with
      | arr vs => exact absurd readable id
      | obj ps => exact absurd readable id
      | null | bool | num | str => exact value_scalar readable whole nofun nofun ends
  | succ depth ih =>
      have inside : ∀ w, Readable depth w → ¬ HasReal w →
          ReadsBack (value (depth + 1)) (prettyChars (level + 1) w) w := fun w hw hwhole =>
        ⟨exists_prettyChars_eq_cons hwhole _, fun rest ends => ih hw hwhole _ rest ends⟩
      cases v with
      | arr vs =>
          exact value_prettyChars_arr
            (fun w hw => inside w (readable w hw) fun h => whole (.item hw h)) rest
      | obj ps =>
          exact value_prettyChars_obj readable.1
            (fun p hp => inside p.2 (readable.2 p hp) fun h => whole (.member hp h)) rest
      | null | bool | num | str => exact value_scalar readable whole nofun nofun ends

/-- **What is within the limits is read back** from its pretty text, with blanks behind it. -/
theorem read?_pretty {v : Json} (readable : Readable 127 v) (whole : ¬ HasReal v)
    {blanks : String} (hblanks : ∀ c ∈ blanks.toList, isSpace c = true) :
    read? (v.pretty ++ blanks) = .ok v := by
  have ends : EndsNumber blanks.toList := by
    cases hcs : blanks.toList with
    | nil => exact fun c hc => by contradiction
    | cons c cs => exact endsNumber_cons (.inl (hblanks c (by simp [hcs]))) cs
  have hvalue := (readsBack readable whole 0).back blanks.toList ends
  have hrest : skipSpace blanks.toList = [] := by
    have happend := skipSpace_append hblanks []
    rwa [List.append_nil] at happend
  have htext : (v.pretty ++ blanks).toList = prettyChars 0 v ++ blanks.toList := by
    simp [pretty]
  simp only [read?, read, readChars, htext, hvalue, bind, Except.bind, hrest]
  rfl

end AlertDesk.Json
