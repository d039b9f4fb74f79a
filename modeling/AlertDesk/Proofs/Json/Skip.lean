import AlertDesk.Json.Skip
import AlertDesk.Proofs.Chain

/-!
# AlertDesk.Proofs.Json.Skip

What is read as a value is passed over where nobody asks for it, and both come to the
same place (`Tracks`).  The lemmas go along the grammar: numbers, texts, what has
parts, values.  Nesting takes a level each time, so what is left must not be longer;
it is an end of what was there.

Main facts:

* `number_of_number`, `text_of_stringBody` — numbers and texts that are read are
  passed over;
* `parts_of_items`, `parts_of_members` — so is what has parts, if its parts are;
* `value_tracks` — a value that is read is passed over.
-/

namespace AlertDesk.Json

variable {r rest : List Char} {us us' : Raw} {negative : Bool} {start : Int}
  {x : Number}

namespace Skip

/-! ## blanks and digits -/

theorem space_map (r : List Char) : space (r.map some) = (skipSpace r).map some :=
  List.dropWhile_map ..

theorem dropWhile_isDigit_map (r : List Char) :
    (r.map some).dropWhile isDigit = (skipDigits r).map some :=
  List.dropWhile_map ..

theorem digits_map {c : Char} (h : (digit? c).isSome) (r : List Char) :
    digits ((c :: r).map some) = some ((skipDigits r).map some) := by
  rw [List.map_cons, digits, if_pos (by exact h), dropWhile_isDigit_map]

/-- What is read as digits is digits, and so is what is left of them when they are too many. -/
theorem skipDigits_takeDigits (value count : Nat) (r : List Char) :
    skipDigits (takeDigits value count r).rest = skipDigits r ∧
      ((takeDigits value count r).full = false →
        (takeDigits value count r).rest = skipDigits r) := by
  induction r generalizing value count with
  | nil => exact ⟨rfl, fun _ => rfl⟩
  | cons c r ih =>
      unfold takeDigits
      cases hc : digit? c with
      | none => simp [skipDigits, hc]
      | some d =>
          have hskip : skipDigits (c :: r) = skipDigits r := by simp [skipDigits, hc]
          dsimp only
          split
          · rw [hskip]
            exact ih _ _
          · exact ⟨rfl, by simp⟩

/-- The digits of an exponent are digits, and so is what is left of them when they are too many. -/
theorem skipDigits_exponentDigits (value : Nat) (r : List Char) :
    skipDigits (exponentDigits value r).2 = skipDigits r ∧
      ((exponentDigits value r).1.isSome → (exponentDigits value r).2 = skipDigits r) := by
  induction r generalizing value with
  | nil => exact ⟨rfl, fun _ => rfl⟩
  | cons c r ih =>
      unfold exponentDigits
      cases hc : digit? c with
      | none => simp [skipDigits, hc]
      | some d =>
          have hskip : skipDigits (c :: r) = skipDigits r := by simp [skipDigits, hc]
          dsimp only
          split
          · rw [hskip]
            exact ih _
          · exact ⟨hskip.symm, by simp⟩

/-! ## numbers -/

theorem rest_of_realNumber {digits : Nat} {exponent : Int}
    (h : realNumber negative digits exponent r = .ok (x, rest)) : rest = r := by
  unfold realNumber at h
  split at h
  · exact (congrArg Prod.snd (Except.ok.inj h)).symm
  · contradiction

/-- Behind the letter of an exponent there are digits, if there is no sign. -/
theorem exponent_unsigned (hplus : ∀ r', r ≠ '+' :: r') (hminus : ∀ r', r ≠ '-' :: r') :
    exponent (some 'e' :: r.map some) = digits (r.map some) := by
  cases r with
  | nil => rfl
  | cons c r =>
      have hc : c ≠ '+' ∧ c ≠ '-' := by
        constructor
        · rintro rfl
          exact hplus r rfl
        · rintro rfl
          exact hminus r rfl
      simp [exponent, hc]

/-- An exponent that is read is passed over. -/
theorem exponent_of_exponentPart {digits : Nat}
    (h : exponentPart negative digits start r = .ok (x, rest)) :
    exponent (some 'e' :: r.map some) = some (rest.map some) := by
  unfold exponentPart at h
  split at h
  next down r' hsign =>
    have hdigits : Skip.digits (r'.map some) = some (rest.map some) := by
      split at h
      · contradiction
      · next c r'' =>
          split at h
          · contradiction
          · next d hd =>
              obtain ⟨hleft, hread⟩ := skipDigits_exponentDigits d r''
              rw [digits_map (by rw [hd]; rfl)]
              split at h
              · next e rest' he =>
                  have hrest : rest' = skipDigits r'' := by
                    rw [he] at hread
                    exact hread rfl
                  rw [rest_of_realNumber h, hrest]
              · next rest' he =>
                  have hrest : skipDigits rest' = skipDigits r'' := by
                    rw [he] at hleft
                    exact hleft
                  split at h
                  · contradiction
                  · obtain rfl := congrArg Prod.snd (Except.ok.inj h)
                    rw [← hrest]
    split at hsign
    · obtain ⟨-, rfl⟩ := Prod.mk.inj hsign
      exact hdigits
    · obtain ⟨-, rfl⟩ := Prod.mk.inj hsign
      exact hdigits
    · next hplus hminus =>
        obtain ⟨-, rfl⟩ := Prod.mk.inj hsign
        rw [exponent_unsigned hplus hminus, hdigits]

/-- Digits that are read to their end may be followed by an exponent. -/
theorem exponent_of_exponentOrEnd {digits : Nat}
    (h : exponentOrEnd negative digits start r = .ok (x, rest)) :
    exponent (r.map some) = some (rest.map some) := by
  unfold exponentOrEnd at h
  split at h
  · exact exponent_of_exponentPart h
  · exact exponent_of_exponentPart h
  · next hlower hupper =>
      obtain rfl := rest_of_realNumber h
      cases rest with
      | nil => rfl
      | cons c rest =>
          have hc : c ≠ 'e' ∧ c ≠ 'E' := by
            constructor
            · rintro rfl
              exact hlower rest rfl
            · rintro rfl
              exact hupper rest rfl
          simp [exponent, hc]

/-- What stands behind a point. -/
theorem digits_of_fractionPart {digits : Nat}
    (h : fractionPart negative digits start r = .ok (x, rest)) :
    (Skip.digits (r.map some)).bind exponent = some (rest.map some) := by
  obtain ⟨hleft, hread⟩ := skipDigits_takeDigits digits 0 r
  unfold fractionPart at h
  dsimp only at h
  cases r with
  | nil => contradiction
  | cons c r =>
      cases hc : digit? c with
      | none =>
          have hnone : takeDigits digits 0 (c :: r) = ⟨digits, 0, false, c :: r⟩ := by
            rw [takeDigits, hc]
          simp [hnone] at h
      | some d =>
          have hskip : skipDigits (c :: r) = skipDigits r := by simp [skipDigits, hc]
          rw [digits_map (by rw [hc]; rfl), Option.bind_some, ← hskip]
          split at h
          · rw [hleft] at h
            exact exponent_of_exponentOrEnd h
          · next hfull =>
              split at h
              · split at h <;> contradiction
              · rw [hread (by simpa using hfull)] at h
                exact exponent_of_exponentOrEnd h

/-- What stands behind the digits in front of a point. -/
theorem fraction_of_afterInteger {digits : Nat}
    (h : afterInteger negative digits r = .ok (x, rest)) :
    fraction (r.map some) = some (rest.map some) := by
  unfold afterInteger at h
  split at h
  · exact digits_of_fractionPart h
  · exact exponent_of_exponentPart h
  · exact exponent_of_exponentPart h
  · next hpoint hlower hupper =>
      obtain rfl : rest = r := by
        split at h
        · exact (congrArg Prod.snd (Except.ok.inj h)).symm
        · split at h
          · exact (congrArg Prod.snd (Except.ok.inj h)).symm
          · exact rest_of_realNumber h
      cases rest with
      | nil => rfl
      | cons c rest =>
          have hc : c ≠ '.' ∧ c ≠ 'e' ∧ c ≠ 'E' := by
            refine ⟨?_, ?_, ?_⟩ <;> rintro rfl
            · exact hpoint rest rfl
            · exact hlower rest rfl
            · exact hupper rest rfl
          simp [fraction, exponent, hc]

theorem fraction_of_longInteger {digits : Nat}
    (h : longInteger negative digits r = .ok (x, rest)) :
    fraction ((skipDigits r).map some) = some (rest.map some) := by
  unfold longInteger at h
  dsimp only at h
  split at h
  · next r' hr' =>
      rw [hr']
      exact digits_of_fractionPart h
  · next hpoint =>
      have hexponent := exponent_of_exponentOrEnd h
      cases hr : skipDigits r with
      | nil => rw [hr] at hexponent; exact hexponent
      | cons c r' =>
          have hc : c ≠ '.' := by
            rintro rfl
            exact hpoint r' hr
          rw [hr] at hexponent
          simp [fraction, hc]
          simpa using hexponent

/-- **A number that is read is passed over.** -/
theorem number_of_number (h : Json.number negative r = .ok (x, rest)) :
    number (r.map some) = some (rest.map some) := by
  unfold Json.number at h
  split at h
  · contradiction
  · split at h
    · next c r' =>
        split at h
        · contradiction
        · next hc =>
            have hend : isDigit (some c) = false := by simpa [isDigit] using hc
            simpa [number, hend] using fraction_of_afterInteger h
    · exact fraction_of_afterInteger h
  · next c r' hzero =>
      split at h
      · contradiction
      · next d hd =>
          obtain ⟨hleft, hread⟩ := skipDigits_takeDigits d 1 r'
          have hc : c ≠ '0' := fun heq => hzero heq
          have hnumber : number ((c :: r').map some) =
              (Skip.digits ((c :: r').map some)).bind fraction := by simp [number, hc]
          rw [hnumber, digits_map (by rw [hd]; rfl), Option.bind_some]
          dsimp only at h
          split at h
          · rw [← hleft]
            exact fraction_of_longInteger h
          · next hfull =>
              rw [← hread (by simpa using hfull)]
              exact fraction_of_afterInteger h

/-! ## texts -/

/-- What is read as four hexadecimal digits is passed over behind a `\\u`. -/
theorem text_hexEscape {n : Nat} (h : hexEscape r = .ok (n, rest)) :
    text (('\\' :: 'u' :: r).map some) = text (rest.map some) := by
  unfold hexEscape at h
  dsimp only at h
  split at h
  · split at h
    · next ha hb hc hd =>
        obtain rfl := congrArg Prod.snd (Except.ok.inj h)
        simp [text, isHexDigit, ha, hb, hc, hd]
    · split at h <;> contradiction
  · split at h <;> contradiction

/-- The second half of a pair is an escape of its own. -/
theorem text_secondHalf {first : Nat} {c : Char} (h : secondHalf first r = .ok (c, rest)) :
    text (r.map some) = text (rest.map some) := by
  unfold secondHalf at h
  split at h
  · contradiction
  · contradiction
  · obtain ⟨⟨n, r'⟩, hn, h⟩ := bind_eq_ok_iff.mp h
    dsimp only at h
    split at h
    · obtain rfl := congrArg Prod.snd (Except.ok.inj h)
      exact text_hexEscape hn
    · contradiction
  · contradiction
  · contradiction

/-- An escape that is read is passed over; half of a pair takes the other half along. -/
theorem text_escape {c : Char} (h : escape r = .ok (c, rest)) :
    text (('\\' :: r).map some) = text (rest.map some) := by
  unfold escape at h
  split at h
  case h_10 =>
    obtain ⟨⟨n, r'⟩, hn, h⟩ := bind_eq_ok_iff.mp h
    rw [text_hexEscape hn]
    dsimp only at h
    split at h
    · contradiction
    · split at h
      · exact text_secondHalf h
      · obtain rfl := congrArg Prod.snd (Except.ok.inj h)
        rfl
  all_goals first
    | contradiction
    | obtain rfl := congrArg Prod.snd (Except.ok.inj h)
      rfl

/-- **A text that is read is passed over.** -/
theorem text_of_stringBody {fuel : Nat} {acc cs : List Char}
    (h : stringBody fuel acc r = .ok (cs, rest)) : text (r.map some) = some (rest.map some) := by
  induction fuel generalizing acc r with
  | zero => contradiction
  | succ fuel ih =>
      simp only [stringBody] at h
      split at h
      · contradiction
      · obtain rfl := congrArg Prod.snd (Except.ok.inj h)
        rfl
      · obtain ⟨⟨c, r'⟩, hc, h⟩ := bind_eq_ok_iff.mp h
        rw [text_escape hc]
        exact ih h
      · next c r hquote hback =>
          split at h
          · contradiction
          · next hc =>
              have hne : c ≠ '"' ∧ c ≠ '\\' := ⟨fun heq => hquote heq, fun heq => hback heq⟩
              have hstep : text ((c :: r).map some) = text (r.map some) := by
                simp [text, hne, hc]
              rw [hstep]
              exact ih h

theorem text_of_stringText {s : String} (h : stringText r = .ok (s, rest)) :
    text (r.map some) = some (rest.map some) := by
  obtain ⟨⟨cs, r'⟩, hcs, h⟩ := bind_eq_ok_iff.mp h
  obtain rfl := congrArg Prod.snd (Except.ok.inj h)
  exact text_of_stringBody hcs

/-! ## what is left is an end -/

theorem digits_suffix (h : digits us = some us') : us' <:+ us := by
  unfold digits at h
  split at h
  · contradiction
  · next u us =>
      split at h
      · obtain rfl := Option.some.inj h
        exact (List.dropWhile_suffix _).trans (List.suffix_cons u us)
      · contradiction

theorem exponent_suffix (h : exponent us = some us') : us' <:+ us := by
  unfold exponent at h
  split at h
  · split at h <;> exact (digits_suffix h).trans (by simp [List.suffix_cons_iff])
  · split at h <;> exact (digits_suffix h).trans (by simp [List.suffix_cons_iff])
  · obtain rfl := Option.some.inj h
    exact List.suffix_refl us

theorem fraction_suffix (h : fraction us = some us') : us' <:+ us := by
  unfold fraction at h
  split at h
  · obtain ⟨us'', hdigits, h⟩ := Option.bind_eq_some_iff.mp h
    exact ((exponent_suffix h).trans (digits_suffix hdigits)).trans (List.suffix_cons _ _)
  · exact exponent_suffix h

theorem number_suffix (h : number us = some us') : us' <:+ us := by
  unfold number at h
  split at h
  · split at h
    · contradiction
    · exact (fraction_suffix h).trans (List.suffix_cons _ _)
  · obtain ⟨us'', hdigits, h⟩ := Option.bind_eq_some_iff.mp h
    exact (fraction_suffix h).trans (digits_suffix hdigits)

theorem text_suffix (h : text us = some us') : us' <:+ us := by
  fun_induction text us with
  | case1 => contradiction
  | case2 us =>
      obtain rfl := Option.some.inj h
      exact List.suffix_cons _ _
  | case3 a b c d us _ ih => exact (ih h).trans ⟨[some '\\', some 'u', a, b, c, d], rfl⟩
  | case4 => contradiction
  | case5 u us _ _ ih => exact (ih h).trans ⟨[some '\\', u], rfl⟩
  | case6 => contradiction
  | case7 => contradiction
  | case8 u us _ _ _ _ ih => exact (ih h).trans (List.suffix_cons u us)

/-! ## in step -/

/-- In texts up to some length `skip` passes over what the reader reads, and what is left
is no longer than what was there. -/
def Tracks (length : Nat) {α : Type} (skip : Raw → Option Raw)
    (reader : List Char → Except Fault (α × List Char)) : Prop :=
  ∀ r a rest, r.length ≤ length → reader r = .ok (a, rest) →
    skip (r.map some) = some (rest.map some) ∧ rest.length ≤ r.length

theorem word_tracks {w : List Char} (h : Json.word w r = .ok rest) :
    word w (r.map some) = some (rest.map some) ∧ rest.length ≤ r.length := by
  induction w generalizing r with
  | nil =>
      obtain rfl := Except.ok.inj h
      exact ⟨rfl, Nat.le_refl _⟩
  | cons c w ih =>
      cases r with
      | nil => contradiction
      | cons d r =>
          rw [Json.word] at h
          split at h
          · next hc =>
              obtain ⟨hrest, hle⟩ := ih h
              exact ⟨by rw [List.map_cons, word, if_pos hc, hrest], Nat.le_succ_of_le hle⟩
          · contradiction

theorem number_tracks (h : Json.number negative r = .ok (x, rest)) :
    number (r.map some) = some (rest.map some) ∧ rest.length ≤ r.length := by
  have hstep := number_of_number h
  exact ⟨hstep, by simpa using (number_suffix hstep).length_le⟩

theorem text_tracks {s : String} (h : stringText r = .ok (s, rest)) :
    text (r.map some) = some (rest.map some) ∧ rest.length ≤ r.length := by
  have hstep := text_of_stringText h
  exact ⟨hstep, by simpa using (text_suffix hstep).length_le⟩

/-! ## parts -/

section

variable {σ : Type} {part : σ → Raw → Option (σ × Raw)} {s s' : σ} {close c : Char} {first : Bool}
  {fuel length : Nat} {reader : ValueReader} {r' : List Char}

theorem parts_close (h : skipSpace r = close :: r') :
    parts close part (fuel + 1) first s (r.map some) = some (s, r'.map some) := by
  simp [parts, space_map, h]

theorem parts_first (h : skipSpace r = c :: r') (hc : c ≠ close)
    (hpart : part s ((c :: r').map some) = some (s', rest.map some)) :
    parts close part (fuel + 1) true s (r.map some) =
      parts close part fuel false s' (rest.map some) := by
  rw [List.map_cons] at hpart
  simp [parts, space_map, h, hc, hpart]

theorem parts_next (h : skipSpace r = ',' :: r') (hc : ',' ≠ close)
    (hpart : part s ((skipSpace r').map some) = some (s', rest.map some)) :
    parts close part (fuel + 1) false s (r.map some) =
      parts close part fuel false s' (rest.map some) := by
  simp [parts, space_map, h, hc, hpart]

theorem length_skipSpace (r : List Char) : (skipSpace r).length ≤ r.length :=
  (List.dropWhile_suffix _).length_le

/-- Items that are read are gone through, part by part. -/
theorem parts_of_items (part : σ → Raw → Option (σ × Raw)) (gather : List Json → σ)
    (hpart : ∀ vs r v rest, r.length ≤ length → reader r = .ok (v, rest) →
      part (gather vs) (r.map some) = some (gather (v :: vs), rest.map some) ∧
        rest.length ≤ r.length)
    {acc vs : List Json} (hlength : r.length ≤ length)
    (h : items reader fuel acc r = .ok (vs, rest)) :
    parts ']' part fuel acc.isEmpty (gather acc) (r.map some) =
        some (gather vs, rest.map some) ∧ rest.length ≤ r.length := by
  induction fuel generalizing acc r with
  | zero => contradiction
  | succ fuel ih =>
      have hspace := length_skipSpace r
      simp only [items] at h
      split at h
      · contradiction
      · next r' hr =>
          obtain ⟨rfl, rfl⟩ := Prod.mk.inj (Except.ok.inj h)
          rw [hr, List.length_cons] at hspace
          exact ⟨parts_close hr, by omega⟩
      · next c r' hclose hr =>
          rw [hr] at hspace
          split at h
          · next hempty =>
              obtain ⟨⟨v, r''⟩, hv, h⟩ := bind_eq_ok_iff.mp h
              obtain rfl := List.isEmpty_iff.mp hempty
              obtain ⟨hstep, hle⟩ := hpart [] _ _ _ (by omega) hv
              obtain ⟨hrest, hle'⟩ := ih (by dsimp only; omega) h
              refine ⟨?_, by dsimp only at hle'; omega⟩
              exact (parts_first hr (fun heq => hclose heq) hstep).trans hrest
          · next hempty =>
              have hfirst : acc.isEmpty = false := by simpa using hempty
              split at h
              · next hc =>
                  subst hc
                  have hinner := length_skipSpace r'
                  rw [List.length_cons] at hspace
                  have hnext : (reader (skipSpace r') >>= fun x =>
                      items reader fuel (x.1 :: acc) x.2) = .ok (vs, rest) := by
                    split at h
                    · contradiction
                    · contradiction
                    · exact h
                  obtain ⟨⟨v, r''⟩, hv, h⟩ := bind_eq_ok_iff.mp hnext
                  obtain ⟨hstep, hle⟩ := hpart acc _ _ _ (by omega) hv
                  obtain ⟨hrest, hle'⟩ := ih (by dsimp only; omega) h
                  refine ⟨?_, by dsimp only at hle'; omega⟩
                  rw [hfirst]
                  exact (parts_next hr (by decide) hstep).trans hrest
              · contradiction

/-- Members that are read are gone through, part by part. -/
theorem parts_of_members (part : σ → Raw → Option (σ × Raw))
    (gather : List (String × Json) → σ)
    (hpart : ∀ ps r p rest, r.length ≤ length → Json.member reader r = .ok (p, rest) →
      part (gather ps) (('"' :: r).map some) = some (gather (p :: ps), rest.map some) ∧
        rest.length ≤ r.length)
    {acc ps : List (String × Json)} (hlength : r.length ≤ length)
    (h : members reader fuel acc r = .ok (ps, rest)) :
    parts '}' part fuel acc.isEmpty (gather acc) (r.map some) =
        some (gather ps, rest.map some) ∧ rest.length ≤ r.length := by
  induction fuel generalizing acc r with
  | zero => contradiction
  | succ fuel ih =>
      have hspace := length_skipSpace r
      simp only [members] at h
      split at h
      · contradiction
      · next r' hr =>
          obtain ⟨rfl, rfl⟩ := Prod.mk.inj (Except.ok.inj h)
          rw [hr, List.length_cons] at hspace
          exact ⟨parts_close hr, by omega⟩
      · next c r' hclose hr =>
          rw [hr, List.length_cons] at hspace
          split at h
          · next hempty =>
              split at h
              · next hc =>
                  subst hc
                  obtain ⟨⟨p, r''⟩, hp, h⟩ := bind_eq_ok_iff.mp h
                  obtain rfl := List.isEmpty_iff.mp hempty
                  obtain ⟨hstep, hle⟩ := hpart [] _ _ _ (by omega) hp
                  obtain ⟨hrest, hle'⟩ := ih (by dsimp only; omega) h
                  refine ⟨?_, by dsimp only at hle'; omega⟩
                  exact (parts_first hr (by decide) hstep).trans hrest
              · contradiction
          · next hempty =>
              have hfirst : acc.isEmpty = false := by simpa using hempty
              split at h
              · next hc =>
                  subst hc
                  have hinner := length_skipSpace r'
                  split at h
                  · contradiction
                  · next r₂ hr₂ =>
                      rw [hr₂, List.length_cons] at hinner
                      obtain ⟨⟨p, r''⟩, hp, h⟩ := bind_eq_ok_iff.mp h
                      obtain ⟨hstep, hle⟩ := hpart acc _ _ _ (by omega) hp
                      obtain ⟨hrest, hle'⟩ := ih (by dsimp only; omega) h
                      refine ⟨?_, by dsimp only at hle'; omega⟩
                      rw [hfirst]
                      exact (parts_next hr (by decide) (hr₂ ▸ hstep)).trans hrest
                  · contradiction
                  · contradiction
              · contradiction

end

/-! ## values -/

variable {length : Nat} {reader : ValueReader} {skip : Raw → Option Raw}

theorem member_tracks (h : Tracks length skip reader) {p : String × Json}
    (hlength : r.length ≤ length) (hp : Json.member reader r = .ok (p, rest)) :
    member skip (('"' :: r).map some) = some (rest.map some) ∧ rest.length ≤ r.length := by
  obtain ⟨⟨key, r₁⟩, hkey, hp⟩ := bind_eq_ok_iff.mp hp
  obtain ⟨htext, hle⟩ : text (r.map some) = some (r₁.map some) ∧ r₁.length ≤ r.length :=
    text_tracks hkey
  have hspace := length_skipSpace r₁
  dsimp only at hp
  split at hp
  · contradiction
  · next r₂ hr₂ =>
      rw [hr₂, List.length_cons] at hspace
      obtain ⟨⟨v, r₃⟩, hv, hp⟩ := bind_eq_ok_iff.mp hp
      obtain rfl := congrArg Prod.snd (Except.ok.inj hp)
      obtain ⟨hstep, hle'⟩ := h _ _ _ (by omega) hv
      refine ⟨?_, by dsimp only; omega⟩
      simp [member, htext, space_map, hr₂, hstep]
  · contradiction

theorem all_items (h : Tracks length skip reader) {vs : List Json} (hlength : r.length ≤ length)
    (hvs : items reader (r.length + 1) [] r = .ok (vs, rest)) :
    all ']' skip (r.map some) = some (rest.map some) ∧ rest.length ≤ r.length := by
  have hpart : ∀ (_ : List Json) r v rest, r.length ≤ length → reader r = .ok (v, rest) →
      (skip (r.map some)).map ((), ·) = some ((), rest.map some) ∧ rest.length ≤ r.length :=
    fun _ r v rest hr hv => ⟨by rw [(h r v rest hr hv).1]; rfl, (h r v rest hr hv).2⟩
  obtain ⟨hparts, hle⟩ :=
    parts_of_items (fun _ us => (skip us).map ((), ·)) (fun _ => ()) hpart hlength hvs
  refine ⟨?_, hle⟩
  rw [all, List.length_map]
  exact congrArg (Option.map Prod.snd) hparts

theorem all_members (h : Tracks length skip reader) {ps : List (String × Json)}
    (hlength : r.length ≤ length)
    (hps : members reader (r.length + 1) [] r = .ok (ps, rest)) :
    all '}' (member skip) (r.map some) = some (rest.map some) ∧ rest.length ≤ r.length := by
  have hpart : ∀ (_ : List (String × Json)) r p rest, r.length ≤ length →
      Json.member reader r = .ok (p, rest) →
      (member skip (('"' :: r).map some)).map ((), ·) = some ((), rest.map some) ∧
        rest.length ≤ r.length :=
    fun _ r p rest hr hp =>
      ⟨by rw [(member_tracks h hr hp).1]; rfl, (member_tracks h hr hp).2⟩
  obtain ⟨hparts, hle⟩ :=
    parts_of_members (fun _ us => (member skip us).map ((), ·)) (fun _ => ()) hpart hlength hps
  refine ⟨?_, hle⟩
  rw [all, List.length_map]
  exact congrArg (Option.map Prod.snd) hparts

theorem read_of_bind {α : Type} {x : Except Fault (α × List Char)} {f : α → Json} {v : Json}
    (h : (x >>= fun p => pure (f p.1, p.2)) = .ok (v, rest)) :
    ∃ a, x = .ok (a, rest) ∧ f a = v := by
  obtain ⟨⟨a, r'⟩, hx, h⟩ := bind_eq_ok_iff.mp h
  obtain ⟨hv, rfl⟩ := Prod.mk.inj (Except.ok.inj h)
  exact ⟨a, hx, hv⟩

theorem word_of_bind {x : Except Fault (List Char)} {v w : Json}
    (h : (x >>= fun p => pure (w, p)) = .ok (v, rest)) : x = .ok rest := by
  obtain ⟨r', hx, h⟩ := bind_eq_ok_iff.mp h
  obtain ⟨-, rfl⟩ := Prod.mk.inj (Except.ok.inj h)
  exact hx

/-- **A value that is read is passed over**, where there are as many levels as there are
characters. -/
theorem value_tracks (levels length : Nat) : Tracks length (value length) (Json.value levels) := by
  induction levels generalizing length with
  | zero => exact fun r v rest _ h => by contradiction
  | succ levels ih =>
      intro r v rest hlength h
      have hspace := length_skipSpace r
      have hroom : ∀ {c : Char} {r' : List Char}, skipSpace r = c :: r' →
          ∃ m, length = m + 1 ∧ r'.length ≤ m ∧ r'.length < r.length := by
        intro c r' hr
        rw [hr, List.length_cons] at hspace
        exact ⟨length - 1, by omega, by omega, by omega⟩
      rw [Json.value] at h
      split at h
      · contradiction
      · next r' hr =>
          obtain ⟨m, rfl, hm, hshort⟩ := hroom hr
          obtain ⟨hstep, hle⟩ := word_tracks (word_of_bind h)
          exact ⟨by simpa [value, space_map, hr] using hstep, by omega⟩
      · next r' hr =>
          obtain ⟨m, rfl, hm, hshort⟩ := hroom hr
          obtain ⟨hstep, hle⟩ := word_tracks (word_of_bind h)
          exact ⟨by simpa [value, space_map, hr] using hstep, by omega⟩
      · next r' hr =>
          obtain ⟨m, rfl, hm, hshort⟩ := hroom hr
          obtain ⟨hstep, hle⟩ := word_tracks (word_of_bind h)
          exact ⟨by simpa [value, space_map, hr] using hstep, by omega⟩
      · next r' hr =>
          obtain ⟨m, rfl, hm, hshort⟩ := hroom hr
          obtain ⟨x, hx, -⟩ := read_of_bind (f := num) h
          obtain ⟨hstep, hle⟩ := number_tracks hx
          exact ⟨by simpa [value, space_map, hr] using hstep, by omega⟩
      · next r' hr =>
          obtain ⟨m, rfl, hm, hshort⟩ := hroom hr
          obtain ⟨s, hs, -⟩ := read_of_bind (f := str) h
          obtain ⟨hstep, hle⟩ := text_tracks hs
          exact ⟨by simpa [value, space_map, hr] using hstep, by omega⟩
      · next r' hr =>
          obtain ⟨m, rfl, hm, hshort⟩ := hroom hr
          split at h
          · contradiction
          · obtain ⟨vs, hvs, -⟩ := read_of_bind (f := fun vs : List Json => arr vs.reverse) h
            obtain ⟨hstep, hle⟩ := all_items (ih m) hm hvs
            exact ⟨by simpa [value, space_map, hr] using hstep, by omega⟩
      · next r' hr =>
          obtain ⟨m, rfl, hm, hshort⟩ := hroom hr
          split at h
          · contradiction
          · obtain ⟨ps, hps, -⟩ :=
              read_of_bind (f := fun ps : List (String × Json) => object ps.reverse) h
            obtain ⟨hstep, hle⟩ := all_members (ih m) hm hps
            exact ⟨by simpa [value, space_map, hr] using hstep, by omega⟩
      · next c r' hn ht hf hminus hquote hlist hobject hr =>
          obtain ⟨m, rfl, hm, hshort⟩ := hroom hr
          split at h
          · obtain ⟨x, hx, -⟩ := read_of_bind (f := num) h
            obtain ⟨hstep, hle⟩ := number_tracks hx
            rw [List.length_cons] at hle
            refine ⟨?_, by omega⟩
            rw [value, space_map, hr]
            split
            case h_8 => exact hstep
            all_goals
              next heq =>
                obtain rfl := Option.some.inj (List.cons_eq_cons.mp heq).1
                contradiction
          · contradiction

end Skip

end AlertDesk.Json
