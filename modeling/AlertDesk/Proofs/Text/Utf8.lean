import AlertDesk.Text.Utf8

/-!
# AlertDesk.Proofs.Text.Utf8

The bytes of a text, and the text of bytes.

`Spells` is the syntax of one character: which bytes stand for it.  A character
is written in the bytes that spell it (`spells_encodeChar`), no others spell it
(`Spells.eq_encodeChar`), and they are what is read as one (`units_spells`,
`spells_of_units`).

Main facts:

* `encode_injective` — texts of the same bytes are the same;
* `decodeLossy_encode`, `decodeLossy_dropMark_encode` — a text is read back from its
  bytes, but for a byte order mark in front;
* `decode?_eq_some_iff` — bytes are a text if and only if they are its bytes.
-/

namespace AlertDesk.Text.Utf8

/-! ## the syntax of a character -/

/-- The numbers of characters. -/
def IsScalar (n : Nat) : Prop := n < 0xD800 ∨ (0xDFFF < n ∧ n < 0x110000)

/-- A byte behind the first one. -/
abbrev Follows (b : UInt8) : Prop := 0x80 ≤ b.toNat ∧ b.toNat ≤ 0xBF

/-- The bytes that spell the character of a number: as few as can be, and of no surrogate. -/
inductive Spells : List UInt8 → Nat → Prop where
  | one {b : UInt8} {n : Nat} (first : b.toNat < 0x80) (number : n = b.toNat) : Spells [b] n
  | two {b b₁ : UInt8} {n : Nat} (first : 0xC2 ≤ b.toNat ∧ b.toNat ≤ 0xDF) (second : Follows b₁)
      (number : n = (b.toNat - 0xC0) * 64 + (b₁.toNat - 0x80)) : Spells [b, b₁] n
  | three {b b₁ b₂ : UInt8} {n : Nat} (first : 0xE0 ≤ b.toNat ∧ b.toNat ≤ 0xEF)
      (second : Follows b₁) (third : Follows b₂) (low : b.toNat = 0xE0 → 0xA0 ≤ b₁.toNat)
      (high : b.toNat = 0xED → b₁.toNat ≤ 0x9F)
      (number : n = ((b.toNat - 0xE0) * 64 + (b₁.toNat - 0x80)) * 64 + (b₂.toNat - 0x80)) :
      Spells [b, b₁, b₂] n
  | four {b b₁ b₂ b₃ : UInt8} {n : Nat} (first : 0xF0 ≤ b.toNat ∧ b.toNat ≤ 0xF4)
      (second : Follows b₁) (third : Follows b₂) (fourth : Follows b₃)
      (low : b.toNat = 0xF0 → 0x90 ≤ b₁.toNat) (high : b.toNat = 0xF4 → b₁.toNat ≤ 0x8F)
      (number : n = (((b.toNat - 0xF0) * 64 + (b₁.toNat - 0x80)) * 64 + (b₂.toNat - 0x80)) * 64 +
        (b₃.toNat - 0x80)) : Spells [b, b₁, b₂, b₃] n

variable {b b₁ b₂ b₃ : UInt8} {bs : List UInt8} {cs : List Char} {n : Nat} {lead : Lead}

theorem isScalar_toNat (c : Char) : IsScalar c.toNat := c.valid

theorem toNat_ofNat (h : IsScalar n) : (Char.ofNat n).toNat = n := by
  have hvalid : n.isValidChar := h
  rw [Char.ofNat, dif_pos hvalid]
  rfl

theorem Spells.isScalar (h : Spells bs n) : IsScalar n := by
  unfold IsScalar
  cases h <;> omega

/-! ## writing -/

/-- A character is written in bytes that spell it. -/
theorem spells_encodeChar (c : Char) : Spells (encodeChar c) c.toNat := by
  have hscalar := isScalar_toNat c
  have hval : c.val.toNat = c.toNat := rfl
  unfold IsScalar at hscalar
  simp only [encodeChar, String.utf8EncodeChar, hval]
  split
  · refine .one ?_ ?_ <;> rw [UInt8.toNat_ofNat'] <;> omega
  · split
    · refine .two ⟨?_, ?_⟩ ⟨?_, ?_⟩ ?_ <;> simp only [UInt8.toNat_ofNat'] <;> omega
    · split
      · refine .three ⟨?_, ?_⟩ ⟨?_, ?_⟩ ⟨?_, ?_⟩ ?_ ?_ ?_ <;>
          simp only [UInt8.toNat_ofNat'] <;> omega
      · refine .four ⟨?_, ?_⟩ ⟨?_, ?_⟩ ⟨?_, ?_⟩ ⟨?_, ?_⟩ ?_ ?_ ?_ <;>
          simp only [UInt8.toNat_ofNat'] <;> omega

/-- No other bytes spell a character than those that it is written in. -/
theorem Spells.eq_encodeChar (h : Spells bs n) : bs = encodeChar (Char.ofNat n) := by
  have hval : (Char.ofNat n).val.toNat = n := toNat_ofNat h.isScalar
  simp only [encodeChar, String.utf8EncodeChar, hval]
  cases h with
  | one first number =>
      rw [if_pos (by omega), number, UInt8.ofNat_toNat]
  | two first second number =>
      rw [if_neg (by omega), if_pos (by omega)]
      simp only [List.cons.injEq, ← UInt8.toNat_inj, UInt8.toNat_ofNat', and_true]
      omega
  | three first second third low high number =>
      rw [if_neg (by omega), if_neg (by omega), if_pos (by omega)]
      simp only [List.cons.injEq, ← UInt8.toNat_inj, UInt8.toNat_ofNat', and_true]
      omega
  | four first second third fourth low high number =>
      rw [if_neg (by omega), if_neg (by omega), if_neg (by omega)]
      simp only [List.cons.injEq, ← UInt8.toNat_inj, UInt8.toNat_ofNat', and_true]
      omega

/-- A character of ASCII is one byte. -/
theorem encodeChar_ascii {c : Char} (h : c.toNat < 0x80) :
    encodeChar c = [UInt8.ofNat c.toNat] := by
  have hle : c.val.toNat ≤ 0x7F := Nat.le_of_lt_succ h
  rw [encodeChar, String.utf8EncodeChar, if_pos hle]
  rfl

/-- The byte of a character of ASCII is the character's number. -/
theorem toNat_byte {c : Char} (h : c.toNat < 0x80) : (UInt8.ofNat c.toNat).toNat = c.toNat := by
  rw [UInt8.toNat_ofNat', Nat.mod_eq_of_lt (by omega)]

/-- Beyond ASCII the first byte is above all of ASCII. -/
theorem encodeChar_beyond {c : Char} (h : ¬ c.toNat < 0x80) :
    ∃ b r, encodeChar c = b :: r ∧ 0x80 ≤ b.toNat := by
  have hlt : ¬ c.val.toNat ≤ 0x7F := fun hle => h (Nat.lt_succ_of_le hle)
  unfold encodeChar String.utf8EncodeChar
  simp only [hlt, if_false]
  split
  · exact ⟨_, _, rfl, by simp; omega⟩
  · split
    · exact ⟨_, _, rfl, by simp; omega⟩
    · exact ⟨_, _, rfl, by simp; omega⟩

/-- Texts of the same bytes are the same. -/
theorem encode_injective {a b : List Char} (h : encode a = encode b) : a = b := by
  have hbytes : a.utf8Encode = b.utf8Encode := congrArg List.toByteArray h
  apply String.ofList_injective
  rw [← String.toByteArray_inj, String.toByteArray_ofList, String.toByteArray_ofList, hbytes]

/-! ## first bytes -/

theorem Lead.ofByte?_two (h : 0xC2 ≤ b.toNat ∧ b.toNat ≤ 0xDF) :
    ofByte? b = some { payload := b.toNat - 0xC0, following := 1 } := if_pos h

theorem Lead.ofByte?_three (h : 0xE0 ≤ b.toNat ∧ b.toNat ≤ 0xEF) : ofByte? b = some {
    payload := b.toNat - 0xE0, following := 2
    low := if b.toNat = 0xE0 then 0xA0 else 0x80
    high := if b.toNat = 0xED then 0x9F else 0xBF } := by
  simp only [ofByte?, UInt8.le_iff_toNat_le, ← UInt8.toNat_inj, UInt8.reduceToNat]
  rw [if_neg (by omega)]
  split
  · next hleast => simp [hleast]
  · split
    · next hgreatest => simp [hgreatest]
    · rw [if_pos (by omega)]

theorem Lead.ofByte?_four (h : 0xF0 ≤ b.toNat ∧ b.toNat ≤ 0xF4) : ofByte? b = some {
    payload := b.toNat - 0xF0, following := 3
    low := if b.toNat = 0xF0 then 0x90 else 0x80
    high := if b.toNat = 0xF4 then 0x8F else 0xBF } := by
  simp only [ofByte?, UInt8.le_iff_toNat_le, ← UInt8.toNat_inj, UInt8.reduceToNat]
  rw [if_neg (by omega), if_neg (by omega), if_neg (by omega), if_neg (by omega)]
  split
  · next hleast => simp [hleast]
  · split
    · rw [if_neg (by omega)]
    · rw [if_pos (by omega), if_pos (by omega)]
      simp
      omega

theorem Lead.ofByte?_none (h : b.toNat < 0xC2 ∨ 0xF4 < b.toNat) : ofByte? b = none := by
  simp only [ofByte?, UInt8.le_iff_toNat_le, ← UInt8.toNat_inj, UInt8.reduceToNat]
  repeat rw [if_neg (by omega)]

/-- A first byte keeps its promise: with a second byte in its range, and as many others as
follow, it spells the character of their joined payloads. -/
theorem Lead.spells (h : ofByte? b = some lead) (hlow : lead.low ≤ b₁) (hhigh : b₁ ≤ lead.high) :
    (lead.following = 1 → Spells [b, b₁] (push lead.payload b₁)) ∧
    (lead.following = 2 →
      ∀ b₂, Follows b₂ → Spells [b, b₁, b₂] (push (push lead.payload b₁) b₂)) ∧
    (lead.following ≠ 1 → lead.following ≠ 2 → ∀ b₂ b₃, Follows b₂ → Follows b₃ →
      Spells [b, b₁, b₂, b₃] (push (push (push lead.payload b₁) b₂) b₃)) := by
  rw [UInt8.le_iff_toNat_le] at hlow hhigh
  by_cases hnone : b.toNat < 0xC2 ∨ 0xF4 < b.toNat
  · rw [ofByte?_none hnone] at h
    contradiction
  obtain hb | hb | hb : (0xC2 ≤ b.toNat ∧ b.toNat ≤ 0xDF) ∨ (0xE0 ≤ b.toNat ∧ b.toNat ≤ 0xEF) ∨
      (0xF0 ≤ b.toNat ∧ b.toNat ≤ 0xF4) := by omega
  · obtain rfl := Option.some.inj ((ofByte?_two hb).symm.trans h)
    exact ⟨fun _ => .two hb ⟨hlow, hhigh⟩ rfl, nofun, fun hone => absurd rfl hone⟩
  · obtain rfl := Option.some.inj ((ofByte?_three hb).symm.trans h)
    simp only [apply_ite UInt8.toNat, UInt8.reduceToNat] at hlow hhigh
    refine ⟨nofun, fun _ b₂ hthird => ?_, fun _ htwo => absurd rfl htwo⟩
    refine .three hb ⟨?_, ?_⟩ hthird ?_ ?_ rfl <;> grind
  · obtain rfl := Option.some.inj ((ofByte?_four hb).symm.trans h)
    simp only [apply_ite UInt8.toNat, UInt8.reduceToNat] at hlow hhigh
    refine ⟨nofun, nofun, fun _ _ b₂ b₃ hthird hfourth => ?_⟩
    refine .four hb ⟨?_, ?_⟩ hthird hfourth ?_ ?_ rfl <;> grind

/-! ## reading -/

theorem isContinuation_iff : isContinuation b = true ↔ Follows b := by
  simp [isContinuation, UInt8.le_iff_toNat_le]

theorem not_lt_of_le (h : 0x80 ≤ b.toNat) : ¬ b < 0x80 := UInt8.not_lt.mpr h

/-- What spells a character is read as that character. -/
theorem units_spells (h : Spells bs n) (r : List UInt8) :
    units (bs ++ r) = some (Char.ofNat n) :: units r := by
  cases h with
  | one first number =>
      have hb : _ < (0x80 : UInt8) := UInt8.lt_iff_toNat_lt.mpr first
      rw [List.singleton_append, units, if_pos hb, number]
  | two first second number =>
      rw [List.cons_append, units, if_neg (not_lt_of_le (by omega)), Lead.ofByte?_two first]
      simp only [List.cons_append, List.nil_append]
      rw [if_neg, number]
      · rfl
      · simp [UInt8.le_iff_toNat_le, second.1, second.2]
  | three first second third low high number =>
      rw [List.cons_append, units, if_neg (not_lt_of_le (by omega)), Lead.ofByte?_three first]
      simp only [List.cons_append, List.nil_append]
      rw [if_neg, if_neg (by decide), if_neg, number]
      · rfl
      · simp [isContinuation_iff.mpr third]
      · simp [UInt8.le_iff_toNat_le, apply_ite UInt8.toNat]
        split <;> split <;> omega
  | four first second third fourth low high number =>
      rw [List.cons_append, units, if_neg (not_lt_of_le (by omega)), Lead.ofByte?_four first]
      simp only [List.cons_append, List.nil_append]
      rw [if_neg, if_neg (by decide), if_neg, if_neg (by decide), if_neg, number]
      · rfl
      · simp [isContinuation_iff.mpr fourth]
      · simp [isContinuation_iff.mpr third]
      · simp [UInt8.le_iff_toNat_le, apply_ite UInt8.toNat]
        split <;> split <;> omega

/-- Only what spells a character is read as one. -/
theorem spells_of_units {c : Char} {us : List (Option Char)} (h : units bs = some c :: us) :
    ∃ front r, bs = front ++ r ∧ Spells front c.toNat ∧ us = units r := by
  have hread : ∀ {front n r}, Spells front n → some (Char.ofNat n) :: units r = some c :: us →
      ∃ front' r', front ++ r = front' ++ r' ∧ Spells front' c.toNat ∧ us = units r' := by
    intro front n r hspells heq
    obtain ⟨hc, rfl⟩ := List.cons_eq_cons.mp heq
    rw [← Option.some.inj hc, toNat_ofNat hspells.isScalar]
    exact ⟨front, r, rfl, hspells, rfl⟩
  have hnone : ∀ {us'}, none :: us' ≠ some c :: us := by simp
  -- a unit that is a character ends where its last byte is read; every other one is `none`
  unfold units at h
  split at h
  · contradiction
  rename_i b r
  split at h
  · next hb => exact hread (.one hb rfl) h
  split at h
  · exact absurd h hnone
  rename_i lead hlead
  split at h
  · exact absurd h hnone
  rename_i b₁ r₁
  split at h
  · exact absurd h hnone
  rename_i hrange
  obtain ⟨hlow, hhigh⟩ : lead.low ≤ b₁ ∧ b₁ ≤ lead.high := by simpa using hrange
  split at h
  · next hone => exact hread ((Lead.spells hlead hlow hhigh).1 hone) h
  rename_i hone
  split at h
  · exact absurd h hnone
  rename_i b₂ r₂
  split at h
  · exact absurd h hnone
  rename_i hthird
  have hthird : Follows b₂ := isContinuation_iff.mp (by simpa using hthird)
  split at h
  · next htwo => exact hread ((Lead.spells hlead hlow hhigh).2.1 htwo b₂ hthird) h
  rename_i htwo
  split at h
  · exact absurd h hnone
  rename_i b₃ r₃
  split at h
  · exact absurd h hnone
  rename_i hfourth
  have hfourth : Follows b₃ := isContinuation_iff.mp (by simpa using hfourth)
  exact hread ((Lead.spells hlead hlow hhigh).2.2 hone htwo b₂ b₃ hthird hfourth) h

theorem units_encode (cs : List Char) : units (encode cs) = cs.map some := by
  induction cs with
  | nil => simp [units]
  | cons c cs ih =>
      have hsplit : encode (c :: cs) = encodeChar c ++ encode cs := rfl
      rw [hsplit, units_spells (spells_encodeChar c), ih, Char.ofNat_toNat, List.map_cons]

theorem units_ne_nil (b : UInt8) (r : List UInt8) : units (b :: r) ≠ [] := by
  intro h
  rw [units] at h
  repeat' split at h
  all_goals simp at h

theorem eq_encode_of_units (h : units bs = cs.map some) : bs = encode cs := by
  induction cs generalizing bs with
  | nil =>
      cases bs with
      | nil => rfl
      | cons b r => exact absurd h (units_ne_nil b r)
  | cons c cs ih =>
      obtain ⟨front, r, rfl, hfront, hr⟩ := spells_of_units h
      rw [ih hr.symm, hfront.eq_encodeChar, Char.ofNat_toNat]
      rfl

/-- **A text is read back from its bytes.** -/
theorem decodeLossy_encode (cs : List Char) : decodeLossy (encode cs) = cs := by
  rw [decodeLossy, units_encode, List.map_map]
  exact List.map_id cs

/-- The byte order mark is written in three bytes. -/
theorem encode_mark (cs : List Char) :
    encode ('\uFEFF' :: cs) = 0xEF :: 0xBB :: 0xBF :: encode cs := by
  have hmark : encodeChar '\uFEFF' = [0xEF, 0xBB, 0xBF] := by decide
  rw [show encode ('\uFEFF' :: cs) = encodeChar '\uFEFF' ++ encode cs from rfl, hmark]
  rfl

/-- **Of a text with a byte order mark the rest is read back**, and of any other text all. -/
theorem decodeLossy_dropMark_encode (cs : List Char) : decodeLossy (dropMark (encode cs)) =
    if cs.head? = some '\uFEFF' then cs.tail else cs := by
  split
  · next hmark =>
      obtain ⟨rest, rfl⟩ := List.head?_eq_some_iff.mp hmark
      rw [encode_mark, dropMark, decodeLossy_encode, List.tail_cons]
  · next hmark =>
      have hkept : dropMark (encode cs) = encode cs := by
        unfold dropMark
        split
        · next r hbytes =>
            -- what begins with the bytes of the mark begins with the mark
            have hunits : cs.map some = some '\uFEFF' :: units r := by
              rw [← units_encode, hbytes]
              exact units_spells (spells_encodeChar '\uFEFF') r
            cases cs with
            | nil => simp at hunits
            | cons c cs => simp_all
        · rfl
      rw [hkept, decodeLossy_encode]

theorem mapM_id_eq_some_iff {us : List (Option Char)} :
    us.mapM id = some cs ↔ us = cs.map some := by
  induction us generalizing cs with
  | nil => cases cs <;> simp
  | cons u us ih =>
      rw [List.mapM_cons, id]
      cases u with
      | none => cases cs <;> simp
      | some c =>
          cases cs with
          | nil => simp [Option.bind_eq_some_iff]
          | cons d cs =>
              simp only [Option.bind_eq_bind, Option.bind_some, Option.bind_eq_some_iff, ih,
                Option.pure_def, Option.some.injEq, List.map_cons, List.cons.injEq]
              constructor
              · rintro ⟨cs', rfl, rfl, rfl⟩
                exact ⟨rfl, rfl⟩
              · rintro ⟨rfl, rfl⟩
                exact ⟨cs, rfl, rfl, rfl⟩

/-- **Bytes are a text if and only if they are its bytes.** -/
theorem decode?_eq_some_iff : decode? bs = some cs ↔ bs = encode cs := by
  rw [decode?, mapM_id_eq_some_iff]
  constructor
  · exact eq_encode_of_units
  · rintro rfl
    exact units_encode cs

end AlertDesk.Text.Utf8
