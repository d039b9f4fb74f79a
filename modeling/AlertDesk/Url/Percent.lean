import AlertDesk.Text.Utf8

/-!
# AlertDesk.Url.Percent

Percent encoding: a byte is written as `%` and two hexadecimal digits.  Which
characters of ASCII are written so depends on the part of the URL; characters
beyond ASCII always are, byte by byte.

The sets of characters to encode are those of the URL standard; each part's
set contains that of the parts before it:

* `fragmentSet`, `querySet`: control characters and what would end a quoted URL;
* `pathSet`: also what would end the path;
* `segmentSet`: also what would divide or hide a segment;
* `userSet`: also what would end the user name.
-/

namespace AlertDesk.Url.Percent

/-! ## sets -/

/-- Control characters of ASCII. -/
def isControl (c : Char) : Bool := c.toNat < 0x20 || c.toNat = 0x7F

/-- Characters to encode in a fragment. -/
def fragmentSet (c : Char) : Bool :=
  isControl c || c = ' ' || c = '"' || c = '<' || c = '>' || c = '`'

/-- Characters to encode in a query. -/
def querySet (special : Bool) (c : Char) : Bool :=
  isControl c || c = ' ' || c = '"' || c = '#' || c = '<' || c = '>' || (special && c = '\'')

/-- Characters to encode in a path. -/
def pathSet (c : Char) : Bool := fragmentSet c || c = '#' || c = '?' || c = '{' || c = '}'

/-- Characters to encode in a segment that is added to a path. -/
def segmentSet (special : Bool) (c : Char) : Bool :=
  pathSet c || c = '/' || c = '%' || (special && c = '\\')

/-- Characters to encode in a user name or password. -/
def userSet (c : Char) : Bool :=
  pathSet c || c = '/' || c = ':' || c = ';' || c = '=' || c = '@' || c = '[' || c = '\\' ||
    c = ']' || c = '^' || c = '|'

/-! ## writing -/

/-- A hexadecimal digit, upper case. -/
def hexDigit (n : Nat) : Char :=
  if n % 16 < 10 then Char.ofNat ('0'.toNat + n % 16) else Char.ofNat ('A'.toNat + (n % 16 - 10))

/-- One byte. -/
def encodeByte (b : UInt8) : List Char := ['%', hexDigit (b.toNat / 16), hexDigit b.toNat]

/-- One character. -/
def encodeChar (set : Char → Bool) (c : Char) : List Char :=
  if c.toNat < 0x80 && !set c then [c] else (Text.Utf8.encodeChar c).flatMap encodeByte

/-- A text. -/
def encode (set : Char → Bool) (cs : List Char) : List Char := cs.flatMap (encodeChar set)

/-! ## reading -/

/-- The value of a hexadecimal digit of either case. -/
def hexValue? (b : UInt8) : Option Nat :=
  if 0x30 ≤ b ∧ b ≤ 0x39 then some (b.toNat - 0x30)
  else if 0x41 ≤ b ∧ b ≤ 0x46 then some (b.toNat - 0x41 + 10)
  else if 0x61 ≤ b ∧ b ≤ 0x66 then some (b.toNat - 0x61 + 10)
  else none

/-- Reads encoded bytes; a `%` that two digits do not follow stands for itself. -/
def decode : List UInt8 → List UInt8
  | [] => []
  | 0x25 :: h :: l :: r => match hexValue? h, hexValue? l with
    | some h, some l => UInt8.ofNat (16 * h + l) :: decode r
    | _, _ => 0x25 :: decode (h :: l :: r)
  | b :: r => b :: decode r

/-- The bytes that an encoded text stands for. -/
def decodeChars (cs : List Char) : List UInt8 := decode (Text.Utf8.encode cs)

/-! ## small facts -/

@[simp] theorem encode_nil (set : Char → Bool) : encode set [] = [] := rfl

@[simp] theorem encode_append (set : Char → Bool) (a b : List Char) :
    encode set (a ++ b) = encode set a ++ encode set b := by
  simp [encode]

end AlertDesk.Url.Percent
