import AlertDesk.Url.Percent

/-!
# AlertDesk.Url.Form

The form encoding of query strings: names and values with `=` between them,
pairs with `&` between them.  Letters, digits and `*-._` stand for themselves, a
blank is `+`, every other byte is percent-encoded.

`write` and `read` are the two directions.
-/

namespace AlertDesk.Url.Form

/-- Bytes that stand for themselves. -/
def isPlain (b : UInt8) : Bool :=
  (0x30 ≤ b && b ≤ 0x39) || (0x41 ≤ b && b ≤ 0x5A) || (0x61 ≤ b && b ≤ 0x7A) ||
    b = 0x2A || b = 0x2D || b = 0x2E || b = 0x5F

/-- One byte. -/
def encodeByte (b : UInt8) : List Char :=
  if isPlain b then [Char.ofNat b.toNat]
  else if b = 0x20 then ['+']
  else Percent.encodeByte b

/-- A name or a value. -/
def encode (s : String) : List Char := (Text.Utf8.bytes s).flatMap encodeByte

/-- A name and its value. -/
def pair (p : String × String) : List Char := encode p.1 ++ '=' :: encode p.2

/-- Pairs with `&` between them. -/
def write : List (String × String) → List Char
  | [] => []
  | [p] => pair p
  | p :: r => pair p ++ '&' :: write r

/-! ## reading -/

/-- The parts of a text between the occurrences of a character. -/
def splitAt (sep : Char) : List Char → List (List Char)
  | [] => [[]]
  | c :: r =>
    if c = sep then [] :: splitAt sep r
    else match splitAt sep r with
      | [] => [[c]]
      | part :: parts => (c :: part) :: parts

/-- The text of a name or a value; what is not UTF-8 becomes U+FFFD. -/
def decode (cs : List Char) : String :=
  let bytes := Text.Utf8.encode (cs.map fun c => if c = '+' then ' ' else c)
  String.ofList (Text.Utf8.decodeLossy (Percent.decode bytes))

/-- A pair; without `=` the value is empty. -/
def readPair (cs : List Char) : String × String :=
  (decode (cs.takeWhile (· ≠ '=')), decode ((cs.dropWhile (· ≠ '=')).drop 1))

/-- The pairs of a query string; empty parts are no pairs. -/
def read (cs : List Char) : List (String × String) :=
  ((splitAt '&' cs).filter (!·.isEmpty)).map readPair

end AlertDesk.Url.Form
