import AlertDesk.Url.Form

/-!
# AlertDesk.Url.Address

Hosts that are numbers.

A host whose last part is a number is an IPv4 address, of one to four parts; a
part may be octal (`0…`) or hexadecimal (`0x…`), and the last part fills all
bytes that are left.  It is written with four decimal parts.

A host in brackets is an IPv6 address: eight groups of hexadecimal digits, of
which the last two may be an IPv4 address, and one run of zeros may be left out.
It is written with the longest such run left out.
-/

namespace AlertDesk.Url

/-! ## IPv4 -/

namespace V4

/-- The digit of a base. -/
def digit? (base : Nat) (c : Char) : Option Nat :=
  let n := c.toNat
  let value :=
    if 0x30 ≤ n ∧ n ≤ 0x39 then n - 0x30
    else if 0x41 ≤ n ∧ n ≤ 0x46 then n - 0x41 + 10
    else if 0x61 ≤ n ∧ n ≤ 0x66 then n - 0x61 + 10
    else base
  if value < base then some value else none

/-- The number of digits of a base. -/
def digits? (base : Nat) (cs : List Char) : Option Nat :=
  cs.foldlM (fun n c => (digit? base c).map (n * base + ·)) 0

/-- The number that a part stands for. -/
def part? (cs : List Char) : Option Nat :=
  match cs with
  | [] => none
  | '0' :: 'x' :: r | '0' :: 'X' :: r => digits? 16 r
  | ['0'] => some 0
  | '0' :: r => digits? 8 r
  | cs => digits? 10 cs

/-- The parts of a host; a dot at the end does not count. -/
def parts (cs : List Char) : List (List Char) :=
  let ps := Form.splitAt '.' cs
  if 1 < ps.length ∧ ps.getLast? = some [] then ps.dropLast else ps

/-- Whether the last part is a number, so that the host has to be an address. -/
def endsInNumber (cs : List Char) : Bool :=
  match (parts cs).getLast? with
  | none | some [] => false
  | some last => last.all (fun c => (digit? 10 c).isSome) || (part? last).isSome

/-- The address of a host. -/
def parse? (cs : List Char) : Option Nat := do
  let numbers ← (parts cs).mapM part?
  let last ← numbers.getLast?
  let firsts := numbers.dropLast
  if 4 < numbers.length ∨ firsts.any (255 < ·) ∨ Nat.pow 256 (4 - firsts.length) ≤ last then none
  else
    let high := firsts.foldl (fun n b => n * 256 + b) 0
    some (high * Nat.pow 256 (4 - firsts.length) + last)

/-- The text of an address. -/
def text (n : Nat) : List Char :=
  let byte (shift : Nat) : List Char := (Nat.repr (n / Nat.pow 256 shift % 256)).toList
  byte 3 ++ '.' :: byte 2 ++ '.' :: byte 1 ++ '.' :: byte 0

/-- A byte in plain decimal, without zeros in front. -/
def byte? (cs : List Char) : Option Nat := do
  let n ← digits? 10 cs
  if cs.isEmpty ∨ 3 < cs.length ∨ 255 < n ∨ (1 < cs.length ∧ cs.head? = some '0') then none
  else some n

/-- The two groups that four decimal bytes stand for inside an IPv6 address. -/
def groups? (cs : List Char) : Option (List Nat) := do
  match ← (Form.splitAt '.' cs).mapM byte? with
  | [a, b, c, d] => some [a * 256 + b, c * 256 + d]
  | _ => none

end V4

/-! ## IPv6 -/

namespace V6

/-- A group of one to four hexadecimal digits. -/
def group? (cs : List Char) : Option Nat :=
  if cs.isEmpty ∨ 4 < cs.length then none else V4.digits? 16 cs

/-- The groups of a list of parts, the last of which may be an IPv4 address. -/
def groups? : List (List Char) → Option (List Nat)
  | [] => some []
  | [p] => if p.contains '.' then V4.groups? p else (group? p).map ([·])
  | p :: r => do return (← group? p) :: (← groups? r)

/-- The groups of a text without `::`; none for the empty text. -/
def side? (cs : List Char) : Option (List Nat) :=
  if cs.isEmpty then some [] else groups? (Form.splitAt ':' cs)

/-- Splits a text at the first `::`. -/
def cut : List Char → List Char × Option (List Char)
  | [] => ([], none)
  | ':' :: ':' :: r => ([], some r)
  | c :: r => let (a, b) := cut r; (c :: a, b)

/-- The eight groups of an address. -/
def parse? (cs : List Char) : Option (List Nat) :=
  match cut cs with
  | (a, none) => do
    let groups ← side? a
    if groups.length = 8 then some groups else none
  | (a, some b) => do
    if a.contains '.' then none
    let left ← side? a
    let right ← side? b
    if left.length + right.length < 8 then
      some (left ++ List.replicate (8 - left.length - right.length) 0 ++ right)
    else none

/-- The length of the run of zeros at the front. -/
def zeros (groups : List Nat) : Nat := (groups.takeWhile (· = 0)).length

/-- Start and length of the first of the longest runs of zeros. -/
def longestRun (groups : List Nat) : Nat × Nat :=
  ((List.range groups.length).map fun i => (i, zeros (groups.drop i))).foldl
    (fun best r => if best.2 < r.2 then r else best) (0, 0)

/-- Groups with colons between them. -/
def join (groups : List Nat) : List Char :=
  (List.intersperse [':'] (groups.map (Nat.toDigits 16 ·))).flatten

/-- The text of an address. -/
def text (groups : List Nat) : List Char :=
  let (start, length) := longestRun groups
  if length < 2 then join groups
  else join (groups.take start) ++ [':', ':'] ++ join (groups.drop (start + length))

end V6

end AlertDesk.Url
