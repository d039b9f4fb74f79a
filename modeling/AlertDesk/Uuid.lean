/-!
# AlertDesk.Uuid

Generated identifiers: random UUIDs, version 4.  Of the 128 bits 122 are free;
`Uuid.text` lays them out with the version and the variant in their places.
-/

namespace AlertDesk.Uuid

/-- A hexadecimal digit, lower case. -/
def hexDigit (n : Nat) : Char :=
  if n % 16 < 10 then Char.ofNat ('0'.toNat + n % 16) else Char.ofNat ('a'.toNat + (n % 16 - 10))

/-- The last `count` hexadecimal digits of a number. -/
def hexDigits : (count : Nat) → Nat → List Char
  | 0, _ => []
  | count + 1, n => hexDigits count (n / 16) ++ [hexDigit n]

/-- The characters of a UUID with 60 free bits before the variant and 62 from it on. -/
def chars (high low : Nat) : List Char :=
  hexDigits 8 (high >>> 28) ++ ['-'] ++ hexDigits 4 (high >>> 12) ++ ['-', '4'] ++
    hexDigits 3 high ++ ['-', hexDigit (8 + (low >>> 60) % 4)] ++ hexDigits 3 (low >>> 48) ++
    ['-'] ++ hexDigits 12 low

/-- The text of the UUID with the given free bits. -/
def text (bits : Nat) : String := String.ofList (chars (bits >>> 62) (bits % 0x4000000000000000))

@[simp] theorem length_hexDigits (count n : Nat) : (hexDigits count n).length = count := by
  induction count generalizing n with
  | zero => rfl
  | succ k ih => simp [hexDigits, ih]

@[simp] theorem length_chars (high low : Nat) : (chars high low).length = 36 := by
  simp only [chars, List.length_append, length_hexDigits, List.length_cons, List.length_nil]

/-- An identifier is never empty. -/
theorem text_ne_empty (bits : Nat) : text bits ≠ "" := fun h => by
  have := length_chars (bits >>> 62) (bits % 0x4000000000000000)
  rw [String.ofList_eq_empty_iff.mp h] at this
  exact absurd this (by decide)

end AlertDesk.Uuid
