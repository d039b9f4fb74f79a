import AlertDesk.Yaml.Mark

/-!
# AlertDesk.Yaml.Cursor

The characters of a YAML text that are left, and where they begin.

There are five line breaks.  Return and line feed together are one; all but the
two separators of Unicode are read as a line feed.
-/

namespace AlertDesk.Yaml

/-! ## characters -/

/-- A line break. -/
def isBreak (c : Char) : Bool :=
  c = '\r' || c = '\n' || c = '\u0085' || c = '\u2028' || c = '\u2029'

/-- A blank or tab. -/
def isBlank (c : Char) : Bool := c = ' ' || c = '\t'

/-- A character of an anchor or a tag handle. -/
def isWordChar (c : Char) : Bool := c.isAlphanum || c = '_' || c = '-'

/-- Whether YAML allows a character at all. -/
def isAllowed (c : Char) : Bool :=
  let n := c.toNat
  n = 0x09 || n = 0x0A || n = 0x0D || (0x20 ≤ n && n ≤ 0x7E) || n = 0x85 ||
    (0xA0 ≤ n && n ≤ 0xFFFD) || 0x10000 ≤ n

/-- The value of a hexadecimal digit. -/
def hexValue? (c : Char) : Option Nat :=
  if '0' ≤ c ∧ c ≤ '9' then some (c.toNat - '0'.toNat)
  else if 'a' ≤ c ∧ c ≤ 'f' then some (c.toNat - 'a'.toNat + 10)
  else if 'A' ≤ c ∧ c ≤ 'F' then some (c.toNat - 'A'.toNat + 10)
  else none

/-! ## cursors -/

/-- The rest of a text and the place where it begins. -/
structure Cursor where
  rest : List Char
  mark : Mark := {}

namespace Cursor

/-- The character `n` places further on; `none` behind the end. -/
def at? (c : Cursor) (n : Nat) : Option Char := (c.rest.drop n).head?

/-- The next character. -/
def next? (c : Cursor) : Option Char := c.rest.head?

/-- Whether the next character is the given one. -/
def is (c : Cursor) (x : Char) : Bool := c.next? = some x

/-- Whether the next character has a property. -/
def next (c : Cursor) (p : Char → Bool) : Bool := c.next?.any p

/-- Whether a line ends here. -/
def endsLine (c : Cursor) : Bool := c.next?.all isBreak

/-- Whether a blank or the end of the line stands `n` places further on. -/
def gapAt (c : Cursor) (n : Nat) : Bool := (c.at? n).all fun x => isBlank x || isBreak x

/-- Whether nothing is left. -/
def atEnd (c : Cursor) : Bool := c.rest.isEmpty

/-- Whether one of the two document marks stands at the beginning of this line. -/
def atDocumentMark (c : Cursor) : Bool :=
  c.mark.column = 0 && c.gapAt 3 &&
    (c.rest.take 3 = ['-', '-', '-'] || c.rest.take 3 = ['.', '.', '.'])

/-- Passes over `n` characters of a line. -/
def skip (c : Cursor) (n : Nat) : Cursor where
  rest := c.rest.drop n
  mark := { c.mark with index := c.mark.index + n, column := c.mark.column + n }

/-- Passes over the characters of a line that have a property. -/
def skipWhile (c : Cursor) (p : Char → Bool) : Cursor := c.skip (c.rest.takeWhile p).length

/-- The characters of a line that have a property, and what is behind them. -/
def takeWhile (c : Cursor) (p : Char → Bool) : List Char × Cursor :=
  (c.rest.takeWhile p, c.skipWhile p)

/-- Takes a line break, if there is one. -/
def takeBreak (c : Cursor) : List Char × Cursor :=
  let goOn (n : Nat) (r : List Char) : Cursor :=
    { rest := r, mark := { index := c.mark.index + n, line := c.mark.line + 1, column := 0 } }
  match c.rest with
  | '\r' :: '\n' :: r => (['\n'], goOn 2 r)
  | x :: r =>
    if x = '\u2028' ∨ x = '\u2029' then ([x], goOn 1 r)
    else if isBreak x then (['\n'], goOn 1 r)
    else ([], c)
  | [] => ([], c)

/-- Passes over a line break, if there is one. -/
def skipBreak (c : Cursor) : Cursor := c.takeBreak.2

/-- Passes over blanks and tabs. -/
def skipBlanks (c : Cursor) : Cursor := c.skipWhile isBlank

/-- Passes over a comment, if there is one. -/
def skipComment (c : Cursor) : Cursor := if c.is '#' then c.skipWhile (!isBreak ·) else c

/-- How many steps a loop over the rest may take. -/
def fuel (c : Cursor) : Nat := c.rest.length + 1

end Cursor

/-- A reader of part of a text. -/
abbrev Reader (α : Type) := Cursor → Except Problem (α × Cursor)

/-- Something wrong at a place while something that began earlier was being read. -/
def wrong {α : Type} (reading : String) (start : Mark) (what : String) (c : Cursor) :
    Except Problem α :=
  .error { what, mark := c.mark, context := some ⟨reading, start⟩ }

end AlertDesk.Yaml
