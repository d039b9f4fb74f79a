import AlertDesk.Url.Address
import AlertDesk.Url.Fault
import AlertDesk.Url.Punycode

/-!
# AlertDesk.Url.Host

Hosts.  A web URL's host is an address, or a domain: percent-encoded bytes are
decoded, letters are folded to lower case, and labels beyond ASCII are written
in Punycode.  The host of any other URL is taken as it stands, with control
characters and what is beyond ASCII encoded.

Letters are folded in the Latin, Greek and Cyrillic blocks and the full-width
forms; other characters stand for themselves.
-/

namespace AlertDesk.Url.Host

/-! ## domains -/

/-- The character that a character of a domain is folded to; `none` for those
that are dropped. -/
def fold (c : Char) : Option Char :=
  let n := c.toNat
  let shift (d : Nat) : Option Char := some (Char.ofNat (n + d))
  if 0x41 ≤ n ∧ n ≤ 0x5A then shift 0x20
  else if n < 0x80 then some c
  else if n = 0xA0 then some ' '
  else if n = 0xAD ∨ n = 0x200B ∨ n = 0x2060 ∨ n = 0xFEFF ∨ (0xFE00 ≤ n ∧ n ≤ 0xFE0F) then none
  else if 0xC0 ≤ n ∧ n ≤ 0xDE ∧ n ≠ 0xD7 then shift 0x20
  else if 0x100 ≤ n ∧ n ≤ 0x12F ∧ n % 2 = 0 then shift 1
  else if 0x132 ≤ n ∧ n ≤ 0x137 ∧ n % 2 = 0 then shift 1
  else if 0x139 ≤ n ∧ n ≤ 0x148 ∧ n % 2 = 1 then shift 1
  else if 0x14A ≤ n ∧ n ≤ 0x177 ∧ n % 2 = 0 then shift 1
  else if n = 0x178 then some 'ÿ'
  else if 0x179 ≤ n ∧ n ≤ 0x17E ∧ n % 2 = 1 then shift 1
  else if 0x391 ≤ n ∧ n ≤ 0x3A9 ∧ n ≠ 0x3A2 then shift 0x20
  else if 0x400 ≤ n ∧ n ≤ 0x40F then shift 0x50
  else if 0x410 ≤ n ∧ n ≤ 0x42F then shift 0x20
  else if n = 0x3002 ∨ n = 0xFF0E ∨ n = 0xFF61 then some '.'
  else if 0xFF21 ≤ n ∧ n ≤ 0xFF3A then some (Char.ofNat (n - 0xFEE0 + 0x20))
  else if 0xFF01 ≤ n ∧ n ≤ 0xFF5E then some (Char.ofNat (n - 0xFEE0))
  else some c

/-- Characters that no domain may have. -/
def isForbidden (c : Char) : Bool :=
  let n := c.toNat
  n ≤ 0x20 || n = 0x7F || "%#/:<>?@[\\]^|".toList.contains c ||
    (0x80 ≤ n && n ≤ 0x9F) || n = 0xFFFD || (0xE000 ≤ n && n ≤ 0xF8FF) || n % 0x10000 ≥ 0xFFFE

/-- Whether every character is ASCII. -/
def isAscii (cs : List Char) : Bool := cs.all fun c => c.toNat < 0x80

/-- A label in ASCII; one that claims to be Punycode has to be the Punycode of something. -/
def label? (cs : List Char) : Option (List Char) :=
  if !isAscii cs then some ("xn--".toList ++ Punycode.encode cs)
  else match cs with
    | 'x' :: 'n' :: '-' :: '-' :: r => match Punycode.decode? r with
      | some plain => if isAscii plain ∨ Punycode.encode plain ≠ r then none else some cs
      | none => none
    | _ => some cs

/-- A domain in ASCII. -/
def domain? (cs : List Char) : Option (List Char) := do
  let folded := cs.filterMap fold
  if folded.any isForbidden then none
  let labels ← (Form.splitAt '.' folded).mapM label?
  return (List.intersperse ['.'] labels).flatten

/-! ## hosts -/

/-- An address in brackets. -/
def bracketed (r : List Char) : Except Fault String :=
  if r.getLast? ≠ some ']' then .error .badV6
  else match V6.parse? r.dropLast with
    | some groups => .ok (String.ofList ('[' :: V6.text groups ++ [']']))
    | none => .error .badV6

/-- The host of a web URL. -/
def ofWeb (cs : List Char) : Except Fault String :=
  match cs with
  | '[' :: r => bracketed r
  | cs => match domain? (Text.Utf8.decodeLossy (Percent.decodeChars cs)) with
    | none => .error .badDomain
    | some domain =>
      if domain.isEmpty then .error .emptyHost
      else if V4.endsInNumber domain then
        match V4.parse? domain with
        | some n => .ok (String.ofList (V4.text n))
        | none => .error .badV4
      else .ok (String.ofList domain)

/-- Characters that the host of another URL may not have. -/
def isStop (c : Char) : Bool :=
  c = '\x00' || c = '\t' || c = '\n' || c = '\r' || " #/:<>?@[\\]^|".toList.contains c

/-- The host of another URL. -/
def ofOther (cs : List Char) : Except Fault String :=
  match cs with
  | '[' :: r => bracketed r
  | cs =>
    if cs.any isStop then .error .badHostCharacter
    else .ok (String.ofList (Percent.encode Percent.isControl cs))

end AlertDesk.Url.Host
