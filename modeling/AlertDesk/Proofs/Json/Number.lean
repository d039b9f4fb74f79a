import AlertDesk.Json.Reader
import AlertDesk.Proofs.Chain

/-!
# AlertDesk.Proofs.Json.Number

Integers in JSON texts.  The digits of an integer that fits a 64-bit word, signed
or unsigned, are read as that integer, provided that what stands behind them does
not go on with the number (`EndsNumber`); and no other integers are ever read.

Main facts:

* `number_natAbs` — an integer is read from the text of it;
* `inRange_of_number` — an integer that was read fits a 64-bit word.
-/

namespace AlertDesk

/-- An integer that fits a 64-bit word, signed or unsigned, or a double. -/
def Number.InRange : Number → Prop
  | .int i => -0x8000000000000000 ≤ i ∧ i < 0x10000000000000000
  | .real _ => True

namespace Json

/-! ## digits -/

theorem digit?_of_isDigit {c : Char} (h : c.isDigit = true) :
    digit? c = some (c.toNat - '0'.toNat) := by
  have hrange : '0' ≤ c ∧ c ≤ '9' := by
    simpa [Char.isDigit, Char.le_def] using h
  rw [digit?, if_pos hrange]

theorem lt_of_digit? {c : Char} {d : Nat} (h : digit? c = some d) : d < 10 := by
  unfold digit? at h
  split at h
  · next hrange =>
      have hle : c.toNat ≤ '9'.toNat := hrange.2
      obtain rfl := Option.some.inj h
      change c.toNat - 48 < 10
      change c.toNat ≤ 57 at hle
      omega
  · contradiction

/-- Reading on adds to the value of the digits. -/
theorem le_ofDigitChars (cs : List Char) (v : Nat) : v ≤ Nat.ofDigitChars 10 cs v := by
  induction cs generalizing v with
  | nil => exact Nat.le_refl _
  | cons c cs ih =>
      rw [Nat.ofDigitChars_cons]
      exact Nat.le_trans (by omega) (ih _)

/-- Digits are taken as long as their value fits a 64-bit word. -/
theorem takeDigits_append {cs : List Char} (digits : ∀ c ∈ cs, c.isDigit = true) (v n : Nat)
    (fits : Nat.ofDigitChars 10 cs v < UInt64.size) (rest : List Char) :
    takeDigits v n (cs ++ rest) =
      takeDigits (Nat.ofDigitChars 10 cs v) (n + cs.length) rest := by
  induction cs generalizing v n with
  | nil => rfl
  | cons c cs ih =>
      rw [Nat.ofDigitChars_cons] at fits ⊢
      have hc := digits c List.mem_cons_self
      have hnext : v * 10 + (c.toNat - '0'.toNat) < UInt64.size := by
        have hle := le_ofDigitChars cs (10 * v + (c.toNat - '0'.toNat))
        omega
      simp only [List.cons_append, takeDigits, digit?_of_isDigit hc, if_pos hnext]
      rw [Nat.mul_comm v 10, ih (fun d hd => digits d (List.mem_cons_of_mem c hd)) _ _ fits,
        List.length_cons, Nat.add_assoc, Nat.add_comm 1]

/-- The first digit of a number that is not 0 is not 0. -/
theorem head?_toDigits_ne {n : Nat} (hn : 0 < n) : (Nat.toDigits 10 n).head? ≠ some '0' := by
  induction n using Nat.strongRecOn with
  | ind n ih =>
      by_cases hsmall : n < 10
      · rw [Nat.toDigits_of_lt_base hsmall]
        simp [Nat.digitChar_eq_zero, Nat.ne_of_gt hn]
      · have hfirst := ih (n / 10) (by omega) (by omega)
        rw [Nat.toDigits_of_base_le (by decide) (by omega)]
        cases hcs : Nat.toDigits 10 (n / 10) with
        | nil => exact absurd hcs Nat.toDigits_ne_nil
        | cons c cs => simpa [hcs] using hfirst

/-! ## integers that are read back -/

/-- Nothing that would be read as part of a number in front of it. -/
def EndsNumber (rest : List Char) : Prop :=
  ∀ c ∈ rest.head?, digit? c = none ∧ c ≠ '.' ∧ c ≠ 'e' ∧ c ≠ 'E'

variable {rest : List Char}

theorem takeDigits_of_ends (h : EndsNumber rest) (v n : Nat) :
    takeDigits v n rest = ⟨v, n, false, rest⟩ := by
  cases rest with
  | nil => rfl
  | cons c r => simp only [takeDigits, (h c rfl).1]

theorem number_repr {n : Nat} (fits : n < UInt64.size) (h : EndsNumber rest) (negative : Bool) :
    number negative ((Nat.repr n).toList ++ rest) = afterInteger negative n rest := by
  rw [Nat.repr_eq_ofList_toDigits, String.toList_ofList]
  by_cases hn : n = 0
  · subst hn
    cases rest with
    | nil => rfl
    | cons c r => simp [Nat.toDigits_zero, number, (h c rfl).1]
  · have hvalue : Nat.ofDigitChars 10 (Nat.toDigits 10 n) 0 = n :=
      Nat.ofDigitChars_toDigits (by decide) (by decide)
    have hdigits : ∀ c ∈ Nat.toDigits 10 n, c.isDigit = true :=
      fun c hc => Nat.isDigit_of_mem_toDigits (by decide) (by decide) hc
    have htake := takeDigits_append hdigits 0 0 (by rwa [hvalue]) rest
    rw [hvalue, takeDigits_of_ends h] at htake
    have hhead := head?_toDigits_ne (Nat.pos_of_ne_zero hn)
    cases hcs : Nat.toDigits 10 n with
    | nil => exact absurd hcs Nat.toDigits_ne_nil
    | cons c cs =>
        rw [hcs] at htake hhead hdigits
        have hc := digit?_of_isDigit (hdigits c List.mem_cons_self)
        have hsmall := lt_of_digit? hc
        have hzero : c ≠ '0' := fun heq => hhead (congrArg some heq)
        have hword : 0 * 10 + (c.toNat - '0'.toNat) < UInt64.size := by
          have hten : 10 < UInt64.size := by decide
          omega
        simp only [List.cons_append, takeDigits, hc, if_pos hword] at htake
        rw [Nat.zero_mul, Nat.zero_add, Nat.zero_add] at htake
        rw [List.cons_append, number.eq_def]
        split
        · contradiction
        · next heq => exact absurd (List.cons.inj heq).1 hzero
        · next heq =>
            obtain ⟨rfl, rfl⟩ := List.cons.inj heq
            simp only [hc, htake, Bool.false_eq_true, if_false]

/-- **An integer is read from its text**, behind the sign. -/
theorem number_natAbs {i : Int} (fits : (Number.int i).InRange) (h : EndsNumber rest) :
    number (decide (i < 0)) ((Nat.repr i.natAbs).toList ++ rest) = .ok (.int i, rest) := by
  obtain ⟨hlow, hhigh⟩ := fits
  have hword : i.natAbs < UInt64.size := by
    change i.natAbs < 2 ^ 64
    omega
  have hnone : ∀ c r, rest = c :: r → c ≠ '.' ∧ c ≠ 'e' ∧ c ≠ 'E' :=
    fun c r heq => (h c (by rw [heq]; rfl)).2
  rw [number_repr hword h, afterInteger.eq_def]
  split
  · next r => exact absurd rfl (hnone _ _ rfl).1
  · next r => exact absurd rfl (hnone _ _ rfl).2.1
  · next r => exact absurd rfl (hnone _ _ rfl).2.2
  · by_cases hi : i < 0
    · have hsmall : i.natAbs ≠ 0 ∧ i.natAbs ≤ 0x8000000000000000 := by omega
      have hvalue : -(i.natAbs : Int) = i := by omega
      simp only [hi, decide_true, Bool.not_true, Bool.false_eq_true, if_false]
      rw [if_pos hsmall, hvalue]
    · have hvalue : (i.natAbs : Int) = i := by omega
      simp only [hi, decide_false, Bool.not_false, if_true, hvalue]

/-! ## integers that are read at all -/

theorem value_takeDigits_lt {v n : Nat} (hv : v < UInt64.size) (r : List Char) :
    (takeDigits v n r).value < UInt64.size := by
  induction r generalizing v n with
  | nil => exact hv
  | cons c r ih =>
      simp only [takeDigits]
      split
      · exact hv
      · split
        · next hnext => exact ih hnext
        · exact hv

variable {negative : Bool} {digits : Nat} {start : Int} {r : List Char} {x : Number}

/-- A number with a point or an exponent is a double. -/
theorem isReal_of_realNumber (h : realNumber negative digits start r = .ok (x, rest)) :
    ∃ y, x = .real y := by
  unfold realNumber at h
  split at h
  · exact ⟨_, (congrArg Prod.fst (Except.ok.inj h)).symm⟩
  · contradiction

theorem isReal_of_exponentPart (h : exponentPart negative digits start r = .ok (x, rest)) :
    ∃ y, x = .real y := by
  unfold exponentPart at h
  dsimp only at h
  split at h
  · contradiction
  · split at h
    · contradiction
    · split at h
      · exact isReal_of_realNumber h
      · -- an exponent beyond all bounds leaves nothing of the number, whatever its sign
        split at h
        all_goals
          split at h
          · contradiction
          · exact ⟨_, (congrArg Prod.fst (Except.ok.inj h)).symm⟩

theorem isReal_of_exponentOrEnd (h : exponentOrEnd negative digits start r = .ok (x, rest)) :
    ∃ y, x = .real y := by
  unfold exponentOrEnd at h
  split at h
  · exact isReal_of_exponentPart h
  · exact isReal_of_exponentPart h
  · exact isReal_of_realNumber h

theorem isReal_of_fractionPart (h : fractionPart negative digits start r = .ok (x, rest)) :
    ∃ y, x = .real y := by
  unfold fractionPart at h
  dsimp only at h
  split at h
  · exact isReal_of_exponentOrEnd h
  · split at h
    · split at h <;> contradiction
    · exact isReal_of_exponentOrEnd h

theorem isReal_of_longInteger (h : longInteger negative digits r = .ok (x, rest)) :
    ∃ y, x = .real y := by
  unfold longInteger at h
  dsimp only at h
  split at h
  · exact isReal_of_fractionPart h
  · exact isReal_of_exponentOrEnd h

theorem inRange_of_isReal (h : ∃ y, x = .real y) : x.InRange := by
  obtain ⟨y, rfl⟩ := h
  trivial

theorem inRange_of_afterInteger (hdigits : digits < UInt64.size)
    (h : afterInteger negative digits r = .ok (x, rest)) : x.InRange := by
  unfold afterInteger at h
  split at h
  · exact inRange_of_isReal (isReal_of_fractionPart h)
  · exact inRange_of_isReal (isReal_of_exponentPart h)
  · exact inRange_of_isReal (isReal_of_exponentPart h)
  · split at h
    · obtain rfl := congrArg Prod.fst (Except.ok.inj h)
      change digits < 2 ^ 64 at hdigits
      constructor <;> omega
    · split at h
      · next hsmall =>
          obtain rfl := congrArg Prod.fst (Except.ok.inj h)
          constructor <;> omega
      · exact inRange_of_isReal (isReal_of_realNumber h)

/-- **No other integers are read.** -/
theorem inRange_of_number (h : number negative r = .ok (x, rest)) : x.InRange := by
  unfold number at h
  split at h
  · contradiction
  · have hzero : 0 < UInt64.size := by decide
    split at h
    · split at h
      · contradiction
      · exact inRange_of_afterInteger hzero h
    · exact inRange_of_afterInteger hzero h
  · split at h
    · contradiction
    · next d hd =>
        have hword : d < UInt64.size := Nat.lt_trans (lt_of_digit? hd) (by decide)
        dsimp only at h
        split at h
        · exact inRange_of_isReal (isReal_of_longInteger h)
        · exact inRange_of_afterInteger (value_takeDigits_lt hword _) h

end Json

end AlertDesk
