import AlertDesk.Proofs.Text.Utf8
import AlertDesk.Url.Percent

/-!
# AlertDesk.Proofs.Url.Percent

What percent encoding writes, and that it can be read back.

Main facts:

* `decodeChars_encode` — the bytes of a text are read back from its encoded
  form, if `%` is encoded;
* `encode_injective` — different texts have different encoded forms then;
* `mem_encode` — which characters an encoded text is made of.
-/

namespace AlertDesk

namespace Url.Percent

open Text

variable {set : Char → Bool}

/-! ## hexadecimal digits -/

/-- Digits go by their value modulo 16, so that what holds of sixteen of them holds of all. -/
theorem hexDigit_induction {P : Nat → Char → Prop} (h : ∀ m < 16, P m (hexDigit m)) (n : Nat) :
    P (n % 16) (hexDigit n) := by
  have hmod : hexDigit n = hexDigit (n % 16) := by simp [hexDigit]
  rw [hmod]
  exact h (n % 16) (Nat.mod_lt n (by decide))

theorem hexDigit_ascii (n : Nat) : (hexDigit n).toNat < 0x80 :=
  hexDigit_induction (P := fun _ c => c.toNat < 0x80) (by decide) n

theorem hexValue_hexDigit (n : Nat) :
    hexValue? (UInt8.ofNat (hexDigit n).toNat) = some (n % 16) :=
  hexDigit_induction (P := fun m c => hexValue? (UInt8.ofNat c.toNat) = some m) (by decide) n

/-- Digits are letters and digits. -/
theorem hexDigit_isAlphanum (n : Nat) : (hexDigit n).isAlphanum = true :=
  hexDigit_induction (P := fun _ c => c.isAlphanum = true) (by decide) n

/-! ## reading back -/

/-- A byte is read back. -/
theorem decode_encodeByte (b : UInt8) (r : List UInt8) :
    decode (Utf8.encode (encodeByte b) ++ r) = b :: decode r := by
  have hhigh : (b.toNat / 16) % 16 = b.toNat / 16 := by
    have := b.toNat_lt
    omega
  have hvalue : 16 * (b.toNat / 16) + b.toNat % 16 = b.toNat := by omega
  have hpercent : Utf8.encodeChar '%' = [0x25] := by decide
  simp only [encodeByte, Utf8.encode, List.flatMap_cons, List.flatMap_nil, hpercent,
    Utf8.encodeChar_ascii (hexDigit_ascii _), List.cons_append,
    List.nil_append]
  rw [decode, hexValue_hexDigit, hexValue_hexDigit, hhigh]
  simp [hvalue]

theorem decode_encodeBytes (bs r : List UInt8) :
    decode (Utf8.encode (bs.flatMap encodeByte) ++ r) = bs ++ decode r := by
  induction bs with
  | nil => rfl
  | cons b bs ih =>
      rw [List.flatMap_cons, Utf8.encode_append, List.append_assoc, decode_encodeByte, ih]
      rfl

/-- A byte other than `%` stands for itself. -/
theorem decode_cons {b : UInt8} (h : b ≠ 0x25) (r : List UInt8) :
    decode (b :: r) = b :: decode r := by
  rw [decode]
  simp [h]

/-- A character is read back. -/
theorem decode_encodeChar (hset : set '%' = true) (c : Char) (r : List UInt8) :
    decode (Utf8.encode (encodeChar set c) ++ r) = Utf8.encodeChar c ++ decode r := by
  unfold encodeChar
  split
  · next h =>
      obtain ⟨hascii, hkept⟩ : c.toNat < 0x80 ∧ set c = false := by simpa using h
      have hne : UInt8.ofNat c.toNat ≠ 0x25 := by
        intro heq
        have hnat : c.toNat = 0x25 := by rw [← Utf8.toNat_byte hascii, heq]; rfl
        have hc : c = '%' := Char.toNat_inj.mp hnat
        simp [hc, hset] at hkept
      have hbytes : Utf8.encode [c] = Utf8.encodeChar c := by simp [Utf8.encode]
      rw [hbytes, Utf8.encodeChar_ascii hascii]
      exact decode_cons hne r
  · exact decode_encodeBytes _ r

/-- **A text is read back from its encoded form.** -/
theorem decodeChars_encode (hset : set '%' = true) (cs : List Char) :
    decodeChars (encode set cs) = Utf8.encode cs := by
  unfold decodeChars
  induction cs with
  | nil => simp [decode]
  | cons c cs ih =>
      have hsplit : encode set (c :: cs) = encodeChar set c ++ encode set cs := rfl
      rw [hsplit, Utf8.encode_append, decode_encodeChar hset, ih]
      rfl

/-- **Different texts are encoded differently.** -/
theorem encode_injective (hset : set '%' = true) {a b : List Char}
    (h : encode set a = encode set b) : a = b := by
  apply Utf8.encode_injective
  rw [← decodeChars_encode hset a, h, decodeChars_encode hset b]

/-! ## what is written -/

/-- An encoded byte is `%` and two digits. -/
theorem mem_encodeByte {b : UInt8} {x : Char} (h : x ∈ encodeByte b) :
    x = '%' ∨ x.isAlphanum = true := by
  obtain rfl | rfl | rfl : x = '%' ∨ x = hexDigit (b.toNat / 16) ∨ x = hexDigit b.toNat := by
    simpa [encodeByte] using h
  · exact .inl rfl
  · exact .inr (hexDigit_isAlphanum _)
  · exact .inr (hexDigit_isAlphanum _)

/-- An encoded text is made of `%`, letters, digits and those of its characters
that are not to be encoded. -/
theorem mem_of_mem_encode {cs : List Char} {x : Char} (h : x ∈ encode set cs) :
    x = '%' ∨ x.isAlphanum = true ∨ (x ∈ cs ∧ set x = false) := by
  obtain ⟨c, hmem, hx⟩ := List.mem_flatMap.mp h
  unfold encodeChar at hx
  split at hx
  · next hc =>
      obtain rfl := List.mem_singleton.mp hx
      have hkept : x.toNat < 0x80 ∧ set x = false := by simpa using hc
      exact .inr (.inr ⟨hmem, hkept.2⟩)
  · obtain ⟨b, -, hb⟩ := List.mem_flatMap.mp hx
    obtain hpercent | hdigit := mem_encodeByte hb
    · exact .inl hpercent
    · exact .inr (.inl hdigit)

theorem mem_encode {cs : List Char} {x : Char} (h : x ∈ encode set cs) :
    x = '%' ∨ x.isAlphanum = true ∨ set x = false :=
  (mem_of_mem_encode h).imp id (Or.imp id And.right)

end Url.Percent

end AlertDesk
