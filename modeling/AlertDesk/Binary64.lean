/-!
# AlertDesk.Binary64

Finite IEEE doubles as exact numbers: sign, significand and binary exponent,
with the rounding that takes a rational to the nearest of them.  All arithmetic
is on natural numbers, so every result can be computed inside a proof.

A number written in decimal is read in two steps (`ofDecimal`): its digits, as
a 64-bit word, become a double, which is then multiplied or divided once by a
power of ten that is itself a double.  Each step rounds to nearest, ties to even.
-/

namespace AlertDesk

/-- A finite double: `(-1)^negative * significand * 2^exponent`.  In canonical
form the significand has 53 bits, or fewer with the least exponent, -1074. -/
structure Binary64 where
  negative : Bool
  significand : Nat
  exponent : Int
  deriving DecidableEq

namespace Binary64

/-! ## rounding -/

/-- A quotient rounded to the nearest natural number, a tie to the even one. -/
def roundDiv (num den : Nat) : Nat :=
  let q := num / den
  let r := num % den
  if 2 * r < den then q
  else if den < 2 * r then q + 1
  else if q % 2 = 0 then q
  else q + 1

/-- The least significand of 53 bits. -/
def leastNormal : Nat := 0x10000000000000

/-- `2^e` as a fraction. -/
def twoPow (e : Int) : Nat × Nat := (Nat.pow 2 e.toNat, Nat.pow 2 (-e).toNat)

/-- `10^e` as a fraction. -/
def tenPow (e : Int) : Nat × Nat := (Nat.pow 10 e.toNat, Nat.pow 10 (-e).toNat)

/-- The binary exponent at which a positive fraction has a 53-bit significand,
but never below -1074. -/
def exponentFor (num den : Nat) : Int :=
  let k : Int := (num.log2 : Int) - den.log2
  let (p, q) := twoPow k
  let e := if num * q < den * p then k - 53 else k - 52
  max e (-1074)

/-- A zero of either sign. -/
def zero (negative : Bool) : Binary64 := ⟨negative, 0, -1074⟩

/-- The double nearest to a fraction, or `none` when that would be infinite. -/
def ofRatio (negative : Bool) (num den : Nat) : Option Binary64 :=
  if num = 0 then some (zero negative)
  else
    let e := exponentFor num den
    let (p, q) := twoPow e
    let m := roundDiv (num * q) (den * p)
    let (m, e) := if m = 2 * leastNormal then (leastNormal, e + 1) else (m, e)
    if e ≤ 971 then some ⟨negative, m, e⟩ else none

/-- The magnitude as a fraction. -/
def magnitude (x : Binary64) : Nat × Nat :=
  let (p, q) := twoPow x.exponent
  (x.significand * p, q)

/-- The double nearest to a natural number. -/
def ofNat (n : Nat) : Option Binary64 := ofRatio false n 1

/-- Product of magnitudes, rounded. -/
def mul (negative : Bool) (x y : Binary64) : Option Binary64 :=
  ofRatio negative (x.magnitude.1 * y.magnitude.1) (x.magnitude.2 * y.magnitude.2)

/-- Quotient of magnitudes, rounded; the divisor is not zero. -/
def div (negative : Bool) (x y : Binary64) : Option Binary64 :=
  ofRatio negative (x.magnitude.1 * y.magnitude.2) (x.magnitude.2 * y.magnitude.1)

/-! ## reading decimals -/

/-- The double nearest to `10^k`, for `k` up to 308. -/
def powerOfTen (k : Nat) : Option Binary64 := ofNat (Nat.pow 10 k)

/-- The double read for `digits * 10^exponent`, or `none` when it is out of
range.  An exponent beyond ±308 takes two divisions, or is out of range for
all digits but zero. -/
def ofDecimal (negative : Bool) (digits : Nat) (exponent : Int) : Option Binary64 := do
  let f ← ofNat digits
  if f.significand = 0 then return zero negative
  if 308 < exponent then none
  else if 0 ≤ exponent then
    mul negative f (← powerOfTen exponent.toNat)
  else if -308 ≤ exponent then
    div negative f (← powerOfTen (-exponent).toNat)
  else if -616 ≤ exponent then
    let g ← div negative f (← powerOfTen 308)
    div negative g (← powerOfTen (-exponent - 308).toNat)
  else return zero negative

/-- The double nearest to `digits * 10^exponent` in a single rounding. -/
def ofDecimalExact (negative : Bool) (digits : Nat) (exponent : Int) : Option Binary64 :=
  if digits = 0 then some (zero negative)
  else if 400 < exponent then none
  else if exponent < -1200 - (digits.log2 : Int) then some (zero negative)
  else
    let (p, q) := tenPow exponent
    ofRatio negative (digits * p) q

end Binary64

end AlertDesk
