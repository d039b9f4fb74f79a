import AlertDesk.Json.Reader

/-!
# AlertDesk.Json.Skip

Values that are passed over.  Of a value that nobody asks for only the end is
looked for.  What stands there must have the form of a value; but its texts may
hold bytes that are no characters and escapes that stand for none, its numbers may
be of any size, and it may be nested as deep as it is long.

Each function gives what is left behind what it passes over, `none` if that has not
the form it should have.
-/

namespace AlertDesk.Json

/-- A text as it came in: its characters, and `none` for bytes that are no character. -/
abbrev Raw := List (Option Char)

namespace Skip

/-! ## blanks, words and numbers -/

/-- Drops the blanks in front. -/
def space : Raw → Raw := List.dropWhile fun u => u.any isSpace

/-- The rest of a word of the language. -/
def word : List Char → Raw → Option Raw
  | [], us => some us
  | c :: w, some d :: us => if d = c then word w us else none
  | _ :: _, _ => none

/-- Whether a unit is a decimal digit. -/
def isDigit (u : Option Char) : Bool := u.any fun c => (digit? c).isSome

/-- Digits, one at least. -/
def digits : Raw → Option Raw
  | [] => none
  | u :: us => if isDigit u then some (us.dropWhile isDigit) else none

/-- An exponent, or nothing. -/
def exponent : Raw → Option Raw
  | some 'e' :: us | some 'E' :: us => match us with
    | some '+' :: us | some '-' :: us => digits us
    | us => digits us
  | us => some us

/-- What may follow the digits in front of a point. -/
def fraction : Raw → Option Raw
  | some '.' :: us => (digits us).bind exponent
  | us => exponent us

/-- A number behind its sign. -/
def number : Raw → Option Raw
  | some '0' :: us => if us.head?.any isDigit then none else fraction us
  | us => (digits us).bind fraction

/-! ## texts -/

/-- Whether a unit is a hexadecimal digit. -/
def isHexDigit (u : Option Char) : Bool := u.any fun c => (hexDigit? c).isSome

/-- A text behind its opening quote. -/
def text : Raw → Option Raw
  | [] => none
  | some '"' :: us => some us
  | some '\\' :: some 'u' :: a :: b :: c :: d :: us =>
    if [a, b, c, d].all isHexDigit then text us else none
  | some '\\' :: u :: us =>
    if u.any fun c => c ∈ ['"', '\\', '/', 'b', 'f', 'n', 'r', 't'] then text us else none
  | u :: us => if u.any fun c => c.toNat < 0x20 then none else text us

/-! ## values -/

/-- Goes through parts with commas between them, up to the mark that closes them, and
gathers what `part` makes of each; `fuel` counts the units that are left. -/
def parts {σ : Type} (close : Char) (part : σ → Raw → Option (σ × Raw)) (fuel : Nat)
    (first : Bool) (s : σ) (us : Raw) : Option (σ × Raw) :=
  match fuel with
  | 0 => none
  | fuel + 1 => match space us with
    | [] => none
    | u :: us =>
      if u = some close then some (s, us)
      else if first then
        (part s (u :: us)).bind fun p => parts close part fuel false p.1 p.2
      else if u = some ',' then
        (part s (space us)).bind fun p => parts close part fuel false p.1 p.2
      else none

/-- All parts, behind the mark that opens them. -/
def all (close : Char) (part : Raw → Option Raw) (us : Raw) : Option Raw :=
  (parts close (fun _ us => (part us).map ((), ·)) (us.length + 1) true () us).map Prod.snd

/-- A member, whose value is passed over by `value`. -/
def member (value : Raw → Option Raw) : Raw → Option Raw
  | some '"' :: us => (text us).bind fun us => match space us with
    | some ':' :: us => value us
    | _ => none
  | _ => none

/-- A value that is nested less deep than `levels`. -/
def value (levels : Nat) (us : Raw) : Option Raw :=
  match levels with
  | 0 => none
  | levels + 1 => match space us with
    | some 'n' :: us => word ['u', 'l', 'l'] us
    | some 't' :: us => word ['r', 'u', 'e'] us
    | some 'f' :: us => word ['a', 'l', 's', 'e'] us
    | some '-' :: us => number us
    | some '"' :: us => text us
    | some '[' :: us => all ']' (value levels) us
    | some '{' :: us => all '}' (member (value levels)) us
    | us => number us

end Skip

end AlertDesk.Json
