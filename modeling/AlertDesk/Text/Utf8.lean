/-!
# AlertDesk.Text.Utf8

UTF-8 between characters and bytes.

`encode` writes the bytes of a text.  `units` reads bytes back one unit at a
time: a unit is a character, or `none` for a run of bytes that begins like a
character but cannot be completed, or for a byte that begins none.  `decode?`
wants characters only, `decodeLossy` puts U+FFFD for every other unit.
-/

namespace AlertDesk.Text.Utf8

/-! ## writing -/

/-- The bytes of one character. -/
def encodeChar (c : Char) : List UInt8 := String.utf8EncodeChar c

/-- The bytes of a text. -/
def encode (cs : List Char) : List UInt8 := cs.flatMap encodeChar

/-- The bytes of a text. -/
def bytes (s : String) : List UInt8 := encode s.toList

/-- The number of bytes of a text. -/
def length (cs : List Char) : Nat := cs.foldr (fun c n => c.utf8Size + n) 0

/-! ## reading -/

/-- What a first byte promises: its payload, the range of the second byte, and
how many bytes follow. -/
structure Lead where
  payload : Nat
  low : UInt8 := 0x80
  high : UInt8 := 0xBF
  following : Nat

/-- The promise of a byte that begins a character of two to four bytes.  The
second byte's range leaves out overlong forms, surrogates and what lies beyond
U+10FFFF. -/
def Lead.ofByte? (b : UInt8) : Option Lead :=
  if 0xC2 ≤ b ∧ b ≤ 0xDF then some { payload := b.toNat - 0xC0, following := 1 }
  else if b = 0xE0 then some { payload := 0, low := 0xA0, following := 2 }
  else if b = 0xED then some { payload := 0xD, high := 0x9F, following := 2 }
  else if 0xE1 ≤ b ∧ b ≤ 0xEF then some { payload := b.toNat - 0xE0, following := 2 }
  else if b = 0xF0 then some { payload := 0, low := 0x90, following := 3 }
  else if 0xF1 ≤ b ∧ b ≤ 0xF3 then some { payload := b.toNat - 0xF0, following := 3 }
  else if b = 0xF4 then some { payload := 4, high := 0x8F, following := 3 }
  else none

/-- Appends the six payload bits of a continuation byte. -/
def push (acc : Nat) (b : UInt8) : Nat := acc * 64 + (b.toNat - 0x80)

/-- A byte of the form `10xxxxxx`. -/
def isContinuation (b : UInt8) : Bool := 0x80 ≤ b && b ≤ 0xBF

/-- The units of a byte string. -/
def units : List UInt8 → List (Option Char)
  | [] => []
  | b :: r =>
    if b < 0x80 then some (Char.ofNat b.toNat) :: units r
    else match Lead.ofByte? b with
      | none => none :: units r
      | some lead => match r with
        | [] => [none]
        | b₁ :: r₁ =>
          if !(lead.low ≤ b₁ && b₁ ≤ lead.high) then none :: units (b₁ :: r₁)
          else if lead.following = 1 then some (Char.ofNat (push lead.payload b₁)) :: units r₁
          else match r₁ with
            | [] => [none]
            | b₂ :: r₂ =>
              if !isContinuation b₂ then none :: units (b₂ :: r₂)
              else if lead.following = 2 then
                some (Char.ofNat (push (push lead.payload b₁) b₂)) :: units r₂
              else match r₂ with
                | [] => [none]
                | b₃ :: r₃ =>
                  if !isContinuation b₃ then none :: units (b₃ :: r₃)
                  else
                    some (Char.ofNat (push (push (push lead.payload b₁) b₂) b₃)) :: units r₃

/-- The text of a byte string that is valid UTF-8. -/
def decode? (bs : List UInt8) : Option (List Char) := (units bs).mapM id

/-- The text of a byte string, U+FFFD in place of what is not UTF-8. -/
def decodeLossy (bs : List UInt8) : List Char := (units bs).map fun u => u.getD '\uFFFD'

/-- Drops a byte order mark at the front. -/
def dropMark : List UInt8 → List UInt8
  | 0xEF :: 0xBB :: 0xBF :: r => r
  | bs => bs

@[simp] theorem encode_nil : encode [] = [] := rfl

@[simp] theorem encode_append (a b : List Char) : encode (a ++ b) = encode a ++ encode b := by
  simp [encode]

end AlertDesk.Text.Utf8
