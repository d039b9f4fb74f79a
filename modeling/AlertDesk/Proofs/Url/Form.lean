import AlertDesk.Proofs.Url.Percent
import AlertDesk.Url.Form

/-!
# AlertDesk.Proofs.Url.Form

Form-encoded text is read back: a byte first, then a name or a value, then a
pair, then all of them.

Nothing that stands between names, values and pairs is written inside them
(`mem_encode`), so a written text is cut where it was joined.

Main fact: `read_write` — pairs are read back from the text they are written in.
-/

namespace AlertDesk.Url.Form

open Text

/-! ## names and values -/

/-- Reads `+` as a blank. -/
def unplus (c : Char) : Char := if c = '+' then ' ' else c

theorem decode_eq (cs : List Char) : decode cs =
    String.ofList (Utf8.decodeLossy (Percent.decode (Utf8.encode (cs.map unplus)))) := rfl

/-- A byte that stands for itself is a letter, a digit or one of four marks. -/
theorem isPlain_ascii {b : UInt8} (h : isPlain b = true) :
    b.toNat < 0x80 ∧ b.toNat ∉ [0x25, 0x26, 0x2B, 0x3D] := by
  simp only [isPlain, Bool.or_eq_true, Bool.and_eq_true, decide_eq_true_eq,
    UInt8.le_iff_toNat_le, ← UInt8.toNat_inj, UInt8.reduceToNat] at h
  simp only [List.mem_cons, List.not_mem_nil, or_false]
  omega

theorem toNat_plain {b : UInt8} (h : isPlain b = true) : (Char.ofNat b.toNat).toNat = b.toNat := by
  refine Utf8.toNat_ofNat (.inl ?_)
  have := (isPlain_ascii h).1
  omega

/-- An encoded byte has none of what stands between names, values and pairs. -/
theorem mem_encodeByte {b : UInt8} {x : Char} (h : x ∈ encodeByte b) : x ≠ '&' ∧ x ≠ '=' := by
  unfold encodeByte at h
  split at h
  · next hplain =>
      obtain ⟨-, hmarks⟩ := isPlain_ascii hplain
      rw [← toNat_plain hplain] at hmarks
      obtain rfl := List.mem_singleton.mp h
      constructor
      · intro heq
        simp [heq] at hmarks
      · intro heq
        simp [heq] at hmarks
  · split at h
    · obtain rfl := List.mem_singleton.mp h
      decide
    · obtain rfl | hdigit := Percent.mem_encodeByte h
      · decide
      · constructor <;> rintro rfl <;> revert hdigit <;> decide

theorem mem_encode {s : String} {x : Char} (h : x ∈ encode s) : x ≠ '&' ∧ x ≠ '=' := by
  obtain ⟨b, -, hb⟩ := List.mem_flatMap.mp h
  exact mem_encodeByte hb

/-- An encoded byte is read back. -/
theorem decode_encodeByte (b : UInt8) (r : List UInt8) :
    Percent.decode (Utf8.encode ((encodeByte b).map unplus) ++ r) = b :: Percent.decode r := by
  unfold encodeByte
  split
  · next hplain =>
      obtain ⟨hascii, hmarks⟩ := isPlain_ascii hplain
      simp only [List.mem_cons, List.not_mem_nil, or_false, not_or] at hmarks
      have hchar := toNat_plain hplain
      have hplus : unplus (Char.ofNat b.toNat) = Char.ofNat b.toNat := by
        refine if_neg fun heq => hmarks.2.2.1 ?_
        rw [← hchar, heq]
        rfl
      have hbyte : Utf8.encodeChar (Char.ofNat b.toNat) = [b] := by
        rw [Utf8.encodeChar_ascii (by rwa [hchar]), hchar, UInt8.ofNat_toNat]
      have hne : b ≠ 0x25 := fun heq => hmarks.1 (by rw [heq]; rfl)
      simp only [List.map_cons, List.map_nil, hplus, Utf8.encode, List.flatMap_cons,
        List.flatMap_nil, hbyte]
      exact Percent.decode_cons hne r
  · split
    · next hblank =>
        obtain rfl := hblank
        exact Percent.decode_cons (by decide) r
    · have hplus : (Percent.encodeByte b).map unplus = Percent.encodeByte b := by
        refine List.map_congr_left (fun x hx => if_neg ?_) |>.trans (List.map_id _)
        obtain rfl | hdigit := Percent.mem_encodeByte hx
        · decide
        · rintro rfl
          revert hdigit
          decide
      rw [hplus, Percent.decode_encodeByte]

/-- **A name or a value is read back.** -/
theorem decode_encode (s : String) : decode (encode s) = s := by
  have hbytes : ∀ bs r, Percent.decode (Utf8.encode ((bs.flatMap encodeByte).map unplus) ++ r) =
      bs ++ Percent.decode r := by
    intro bs r
    induction bs with
    | nil => rfl
    | cons b bs ih =>
        rw [List.flatMap_cons, List.map_append, Utf8.encode_append, List.append_assoc,
          decode_encodeByte, ih]
        rfl
  have hall := hbytes (Utf8.bytes s) []
  rw [List.append_nil, Percent.decode, List.append_nil] at hall
  rw [decode_eq, encode, hall, Utf8.bytes, Utf8.decodeLossy_encode, String.ofList_toList]

/-! ## pairs -/

variable {sep : Char} {p r : List Char}

/-- A text without the separator is one part. -/
theorem splitAt_of_not_mem (h : ∀ c ∈ p, c ≠ sep) : splitAt sep p = [p] := by
  induction p with
  | nil => rfl
  | cons c p ih =>
      obtain ⟨hc, hp⟩ := List.forall_mem_cons.mp h
      rw [splitAt, if_neg hc, ih hp]

/-- A text is cut at its first separator. -/
theorem splitAt_append (h : ∀ c ∈ p, c ≠ sep) :
    splitAt sep (p ++ sep :: r) = p :: splitAt sep r := by
  induction p with
  | nil => simp [splitAt]
  | cons c p ih =>
      obtain ⟨hc, hp⟩ := List.forall_mem_cons.mp h
      rw [List.cons_append, splitAt, if_neg hc, ih hp]

theorem mem_pair {q : String × String} {x : Char} (h : x ∈ pair q) : x ≠ '&' := by
  obtain h | h := List.mem_append.mp h
  · exact (mem_encode h).1
  · obtain rfl | h := List.mem_cons.mp h
    · decide
    · exact (mem_encode h).1

/-- **A pair is read back.** -/
theorem readPair_pair (q : String × String) : readPair (pair q) = q := by
  have hname : ∀ c ∈ encode q.1, (decide (c ≠ '=')) = true := fun c hc => by
    simpa using (mem_encode hc).2
  have htake : (pair q).takeWhile (· ≠ '=') = encode q.1 := by
    rw [pair, List.takeWhile_append_of_pos hname]
    simp
  have hdrop : (pair q).dropWhile (· ≠ '=') = '=' :: encode q.2 := by
    rw [pair, List.dropWhile_append_of_pos hname]
    simp
  rw [readPair, htake, hdrop, List.drop_one, List.tail_cons, decode_encode, decode_encode]

theorem pair_ne_nil (q : String × String) : pair q ≠ [] := by
  simp [pair]

/-- **Pairs are read back from the text that they are written in.** -/
theorem read_write (ps : List (String × String)) : read (write ps) = ps := by
  induction ps with
  | nil => rfl
  | cons q ps ih =>
      cases ps with
      | nil =>
          rw [write, read, splitAt_of_not_mem fun c => mem_pair]
          simp [pair_ne_nil, readPair_pair]
      | cons q' ps =>
          rw [write, read, splitAt_append fun c => mem_pair]
          · rw [read] at ih
            simp [pair_ne_nil, readPair_pair, ih]
          · simp

/-- Nothing is written of no pairs, and something of any others. -/
theorem write_eq_nil_iff {ps : List (String × String)} : write ps = [] ↔ ps = [] := by
  constructor
  · intro h
    rw [← read_write ps, h]
    rfl
  · rintro rfl
    rfl

end AlertDesk.Url.Form
