import AlertDesk.Binary64

/-!
# AlertDesk.Binary64.Shortest

The text of a double: the fewest decimal digits that no other double is nearer
to, and of those the ones nearest to the double itself.

`shortest` finds digits and exponent, `text` and `positional` lay them out:

* `text`, used in JSON: positional with at least one digit after the point while
  the first digit stands for `10^-5` to `10^15`, else `1.5e-7`, `1e+16`;
* `positional`: never an exponent, `.0` after a whole number.
-/

namespace AlertDesk.Binary64

/-! ## digits -/

/-- `a * 10^k` against `b * 2^e`, as two natural numbers in the same order. -/
def scales (a : Nat) (k : Int) (b : Nat) (e : Int) : Nat × Nat :=
  (a * (tenPow k).1 * (twoPow e).2, b * (twoPow e).1 * (tenPow k).2)

/-- The largest `k` with `10^k ≤ b * 2^e`, for a positive `b`. -/
def decimalExponent (b : Nat) (e : Int) : Int :=
  let estimate := (((b.log2 : Int) + e) * 30103).fdiv 100000
  let fits (k : Int) : Bool := let (x, y) := scales 1 k b e; x ≤ y
  if fits (estimate + 1) then estimate + 1
  else if fits estimate then estimate
  else estimate - 1

/-- The bounds, in quarters of the last place, between which a decimal reads
back as the double; whether the bounds themselves do. -/
def interval (x : Binary64) : Nat × Nat × Bool :=
  let m := x.significand
  let low := if m = leastNormal ∧ x.exponent ≠ -1074 then 4 * m - 1 else 4 * m - 2
  (low, 4 * m + 2, m % 2 = 0)

/-- Whether `c * 10^k` reads back as the double. -/
def readsBack (x : Binary64) (c : Nat) (k : Int) : Bool :=
  let (low, high, closed) := interval x
  let e := x.exponent - 2
  let (a, l) := scales c k low e
  let (b, h) := scales c k high e
  if closed then decide (l ≤ a) && decide (b ≤ h) else decide (l < a) && decide (b < h)

/-- The nearer of `c * 10^k` and `(c + 1) * 10^k` to the double; a tie goes to the even one. -/
def nearer (x : Binary64) (c : Nat) (k : Int) : Nat :=
  let (a, v) := scales (2 * c + 1) k (2 * x.significand) x.exponent
  if v < a then c
  else if a < v then c + 1
  else if c % 2 = 0 then c
  else c + 1

/-- The best decimal with the last digit at `10^k` that reads back, if there is one. -/
def onGrid (x : Binary64) (k : Int) : Option Nat :=
  let (a, v) := scales 1 k x.significand x.exponent
  let c := v / a
  match readsBack x c k, readsBack x (c + 1) k with
  | true, true => some (nearer x c k)
  | true, false => some c
  | false, true => some (c + 1)
  | false, false => none

/-- Drops trailing zeros, raising the exponent. -/
def stripZeros (fuel : Nat) (c : Nat) (k : Int) : Nat × Int :=
  match fuel with
  | 0 => (c, k)
  | fuel + 1 => if c ≠ 0 ∧ c % 10 = 0 then stripZeros fuel (c / 10) (k + 1) else (c, k)

/-- Tries the grids of one digit, two digits and so on. -/
def search (x : Binary64) (top : Int) : Nat → Nat → Nat × Int
  | 0, n => (0, top - n)
  | fuel + 1, n =>
    match onGrid x (top - n) with
    | some c => stripZeros 20 c (top - n)
    | none => search x top fuel (n + 1)

/-- Digits and exponent of the shortest decimal of a positive double. -/
def shortest (x : Binary64) : Nat × Int :=
  search x (decimalExponent x.significand x.exponent) 17 0

/-! ## layout -/

/-- The digits of a natural number. -/
def digits (n : Nat) : String := Nat.repr n

/-- A decimal point `point` digits from the left, zeros filled in on either
side, and at least one digit after the point. -/
def withPoint (ds : List Char) (point : Int) : List Char :=
  if point ≤ 0 then
    ['0', '.'] ++ List.replicate (-point).toNat '0' ++ ds
  else
    let n := point.toNat
    let whole := ds.take n ++ List.replicate (n - ds.length) '0'
    let frac := ds.drop n
    whole ++ '.' :: (if frac.isEmpty then ['0'] else frac)

/-- One digit, the others after a point, and a signed exponent. -/
def withExponent (ds : List Char) (e : Int) : List Char :=
  let frac := ds.drop 1
  let sign := if e < 0 then '-' else '+'
  ds.take 1 ++ (if frac.isEmpty then [] else '.' :: frac) ++ 'e' :: sign :: (digits e.natAbs).toList

/-- Digits of the double and the place of the point among them. -/
def placed (x : Binary64) : List Char × Int :=
  if x.significand = 0 then (['0'], 1)
  else
    let (c, k) := shortest x
    let ds := (digits c).toList
    (ds, ds.length + k)

/-- A minus sign in front of a negative number's text. -/
def signed (x : Binary64) (cs : List Char) : String :=
  String.ofList (if x.negative then '-' :: cs else cs)

/-- The text of a double in JSON. -/
def text (x : Binary64) : String :=
  let (ds, point) := placed x
  signed x (if -4 ≤ point ∧ point ≤ 16 then withPoint ds point else withExponent ds (point - 1))

/-- The text of a double without an exponent. -/
def positional (x : Binary64) : String :=
  let (ds, point) := placed x
  signed x (withPoint ds point)

end AlertDesk.Binary64
