/-!
# AlertDesk.Url.Punycode

Labels of a domain that have letters beyond ASCII, written in ASCII: first the
characters of ASCII, then, behind a hyphen, where the others go and which they
are.  They come in ascending order, each as the distance from the one before,
in digits of base 36 whose weights adapt to the distances met so far.
-/

namespace AlertDesk.Url.Punycode

/-! ## digits -/

/-- The digit for a value below 36. -/
def digit (n : Nat) : Char :=
  if n < 26 then Char.ofNat ('a'.toNat + n) else Char.ofNat ('0'.toNat + (n - 26))

/-- The value of a digit of either case. -/
def value? (c : Char) : Option Nat :=
  if 'a' ≤ c ∧ c ≤ 'z' then some (c.toNat - 'a'.toNat)
  else if 'A' ≤ c ∧ c ≤ 'Z' then some (c.toNat - 'A'.toNat)
  else if '0' ≤ c ∧ c ≤ '9' then some (c.toNat - '0'.toNat + 26)
  else none

/-- The least value at the place `k` that is followed by another digit. -/
def threshold (k bias : Nat) : Nat :=
  if k ≤ bias + 1 then 1 else if bias + 26 ≤ k then 26 else k - bias

/-- Divides until the distance is small, counting how often. -/
def shrink (fuel delta k : Nat) : Nat :=
  match fuel with
  | 0 => k
  | fuel + 1 =>
    if 455 < delta then shrink fuel (delta / 35) (k + 36) else k + 36 * delta / (delta + 38)

/-- The bias after a distance, `points` being the number of characters placed. -/
def adapt (delta points : Nat) (first : Bool) : Nat :=
  let d := if first then delta / 700 else delta / 2
  shrink 32 (d + d / points) 0

/-! ## writing -/

/-- A distance in digits, from the place `k` on; `fuel` bounds their number. -/
def writeDelta (fuel bias k q : Nat) : List Char :=
  match fuel with
  | 0 => []
  | fuel + 1 =>
    let t := threshold k bias
    if q < t then [digit q]
    else digit (t + (q - t) % (36 - t)) :: writeDelta fuel bias (k + 36) ((q - t) / (36 - t))

/-- How far writing has come. -/
structure Writer where
  out : List Char
  delta : Nat := 0
  bias : Nat := 72
  /-- How many characters have been written. -/
  handled : Nat

/-- Passes over one character of the label while `m` is being written. -/
def Writer.pass (basic m : Nat) (w : Writer) (c : Char) : Writer :=
  if c.toNat < m then { w with delta := w.delta + 1 }
  else if c.toNat = m then {
    out := w.out ++ writeDelta 32 w.bias 36 w.delta
    delta := 0
    bias := adapt w.delta (w.handled + 1) (w.handled = basic)
    handled := w.handled + 1 }
  else w

/-- Writes every occurrence of the code points, which ascend; `n` is the least not yet passed. -/
def writeAll (label : List Char) (basic : Nat) : List Nat → Nat → Writer → Writer
  | [], _, w => w
  | m :: r, n, w =>
    let w := { w with delta := w.delta + (m - n) * (w.handled + 1) }
    let w := label.foldl (Writer.pass basic m) w
    writeAll label basic r (m + 1) { w with delta := w.delta + 1 }

/-- Puts a number in its place in an ascending list, once. -/
def place (n : Nat) : List Nat → List Nat
  | [] => [n]
  | m :: r => if n < m then n :: m :: r else if n = m then m :: r else m :: place n r

/-- The ASCII form of a label. -/
def encode (label : List Char) : List Char :=
  let basic := label.filter fun c => c.toNat < 0x80
  let others := (label.filter fun c => 0x80 ≤ c.toNat).foldl (fun ns c => place c.toNat ns) []
  let start := if basic.isEmpty then [] else basic ++ ['-']
  (writeAll label basic.length others 0x80 { out := start, handled := basic.length }).out

/-! ## reading -/

/-- Reads a distance from the place `k` on. -/
def readDelta (bias : Nat) : (k weight i : Nat) → List Char → Option (Nat × List Char)
  | _, _, _, [] => none
  | k, weight, i, c :: r => do
    let d ← value? c
    let t := threshold k bias
    let i := i + d * weight
    if d < t then some (i, r) else readDelta bias (k + 36) (weight * (36 - t)) i r

/-- Puts in the characters that the digits stand for; `fuel` bounds their number. -/
def readAll (fuel bias n i : Nat) (out : List Char) (r : List Char) : Option (List Char) :=
  match fuel, r with
  | _, [] => some out
  | 0, _ => none
  | fuel + 1, r => do
    let (j, rest) ← readDelta bias 36 1 i r
    let points := out.length + 1
    let n := n + j / points
    let at' := j % points
    if n < 0xD800 ∨ (0xDFFF < n ∧ n < 0x110000) then
      readAll fuel (adapt (j - i) points (i = 0)) n (at' + 1)
        (out.take at' ++ Char.ofNat n :: out.drop at') rest
    else none

/-- The label that an ASCII form stands for. -/
def decode? (cs : List Char) : Option (List Char) :=
  let tail := (cs.reverse.takeWhile (· ≠ '-')).reverse
  let head := cs.take (cs.length - tail.length - 1)
  readAll (cs.length + 1) 72 0x80 0 head tail

end AlertDesk.Url.Punycode
