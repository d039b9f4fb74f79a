import AlertDesk.Json.Printer
import AlertDesk.Json.Reader
import AlertDesk.Proofs.Chain

/-!
# AlertDesk.Proofs.Json.Text

Strings in JSON texts.  A character is written as itself or as an escape, and
either is read back as one character; so a string is read back from what it is
written as, whatever characters it has.

Main fact: `stringText_flatMap`.
-/

namespace AlertDesk.Json

/-- The four digits of a control character are read as its number. -/
theorem hexEscape_hex4 {n : Nat} (hn : n < 0x20) (rest : List Char) :
    hexEscape (hex4 n ++ rest) = .ok (n, rest) := by
  have hdigits : ∀ n < 0x20,
      hex4 n = ['0', '0', Nat.digitChar (n / 16), Nat.digitChar (n % 16)] ∧
      hexDigit? (Nat.digitChar (n / 16)) = some (n / 16) ∧
      hexDigit? (Nat.digitChar (n % 16)) = some (n % 16) := by
    decide
  obtain ⟨hhex, hhigh, hlow⟩ := hdigits n hn
  have hzero : hexDigit? '0' = some 0 := rfl
  have hvalue : ((0 * 16 + 0) * 16 + n / 16) * 16 + n % 16 = n := by omega
  rw [hhex]
  simp only [List.cons_append, List.nil_append, hexEscape, hzero, hhigh, hlow, hvalue]

/-- A character is read back from what it is written as. -/
theorem stringBody_escapeChar (c : Char) (fuel : Nat) (acc r : List Char) :
    stringBody (fuel + 1) acc (escapeChar c ++ r) = stringBody fuel (c :: acc) r := by
  unfold escapeChar
  split
  · next h => subst h; rfl
  split
  · next h => subst h; rfl
  split
  · next h => subst h; rfl
  split
  · next h => subst h; rfl
  split
  · next h => subst h; rfl
  split
  · next h => subst h; rfl
  split
  · next h => subst h; rfl
  split
  · next hcontrol =>
      have hchar : Char.ofNat c.toNat = c := Char.ofNat_toNat c
      have hplain : ¬ (0xDC00 ≤ c.toNat ∧ c.toNat ≤ 0xDFFF) ∧
          ¬ (0xD800 ≤ c.toNat ∧ c.toNat ≤ 0xDBFF) := by omega
      have hescape : escape ('u' :: (hex4 c.toNat ++ r)) = .ok (c, r) := by
        simp only [escape, hexEscape_hex4 hcontrol, bind, Except.bind, if_neg hplain.1,
          if_neg hplain.2, hchar, pure, Except.pure]
      simp only [List.cons_append, stringBody, hescape, bind, Except.bind]
  · next hquote hbackslash _ _ _ _ _ hcontrol =>
      rw [List.singleton_append, stringBody]
      · rw [if_neg hcontrol]
      · exact hquote
      · exact hbackslash

/-- The body of a string is read back, with whatever stands behind the quote left. -/
theorem stringBody_flatMap {cs : List Char} {fuel : Nat} (enough : cs.length < fuel)
    (acc r : List Char) :
    stringBody fuel acc (cs.flatMap escapeChar ++ '"' :: r) = .ok (cs.reverse ++ acc, r) := by
  induction cs generalizing fuel acc with
  | nil =>
      obtain ⟨fuel, rfl⟩ := Nat.exists_eq_add_one_of_ne_zero (Nat.ne_zero_of_lt enough)
      rfl
  | cons c cs ih =>
      obtain ⟨fuel, rfl⟩ := Nat.exists_eq_add_one_of_ne_zero (Nat.ne_zero_of_lt enough)
      rw [List.flatMap_cons, List.append_assoc, stringBody_escapeChar,
        ih (Nat.lt_of_succ_lt_succ enough), List.reverse_cons, List.append_assoc]
      rfl

/-- What is written of each element makes the text no shorter than the list. -/
theorem length_le_flatMap {α : Type} {f : α → List Char} (h : ∀ a, f a ≠ []) (l : List α) :
    l.length ≤ (l.flatMap f).length := by
  induction l with
  | nil => exact Nat.le_refl _
  | cons a l ih =>
      have ha := List.length_pos_iff.mpr (h a)
      rw [List.flatMap_cons, List.length_append, List.length_cons]
      omega

theorem escapeChar_ne_nil (c : Char) : escapeChar c ≠ [] := by
  unfold escapeChar
  repeat' split
  all_goals exact List.cons_ne_nil _ _

/-- **A string is read back from what it is written as.** -/
theorem stringText_flatMap (s : String) (r : List Char) :
    stringText (s.toList.flatMap escapeChar ++ '"' :: r) = .ok (s, r) := by
  have enough : s.toList.length < (s.toList.flatMap escapeChar ++ '"' :: r).length + 1 := by
    have hlength := length_le_flatMap escapeChar_ne_nil s.toList
    rw [List.length_append]
    omega
  rw [stringText, stringBody_flatMap enough]
  simp [bind, Except.bind, pure, Except.pure]

end AlertDesk.Json
