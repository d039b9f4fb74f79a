import AlertDesk.Json
import AlertDesk.Text.Utf8

/-!
# AlertDesk.Json.Reader

JSON texts.  `read` gives the value of a text or the first fault in it, with
line and column.  The grammar is that of the standard, with three limits of
its own:

* a container may stand at most 127 levels deep;
* a number whose value is not finite is refused;
* a `\u` escape must be a character or half of a well-formed surrogate pair.

Of two members with one key the later one counts.

The reader works on the list of characters that are left.  A fault remembers
how many bytes of text lie behind it, from which `Fault.position` counts line
and column; columns are in bytes.
-/

namespace AlertDesk.Json

/-! ## faults -/

/-- What can be wrong with a JSON text. -/
inductive FaultKind where
  | endInValue | endInList | endInObject | endInString
  | wantsValue | wantsWord | wantsColon | wantsCommaOrBracket | wantsCommaOrBrace
  | trailingComma | keyNotText | trailingText
  | badNumber | outOfRange
  | controlCharacter | badEscape | loneSurrogate | halfPair
  | tooDeep
  deriving DecidableEq

/-- The wording of a fault. -/
def FaultKind.text : FaultKind → String
  | .endInValue => "EOF while parsing a value"
  | .endInList => "EOF while parsing a list"
  | .endInObject => "EOF while parsing an object"
  | .endInString => "EOF while parsing a string"
  | .wantsValue => "expected value"
  | .wantsWord => "expected ident"
  | .wantsColon => "expected `:`"
  | .wantsCommaOrBracket => "expected `,` or `]`"
  | .wantsCommaOrBrace => "expected `,` or `\x7d`"
  | .trailingComma => "trailing comma"
  | .keyNotText => "key must be a string"
  | .trailingText => "trailing characters"
  | .badNumber => "invalid number"
  | .outOfRange => "number out of range"
  | .controlCharacter => "control character (\\u0000-\\u001F) found while parsing a string"
  | .badEscape => "invalid escape"
  | .loneSurrogate => "lone leading surrogate in hex escape"
  | .halfPair => "unexpected end of hex escape"
  | .tooDeep => "recursion limit exceeded"

/-- A fault and the number of bytes of text behind the place it is reported at. -/
structure Fault where
  kind : FaultKind
  left : Nat
  deriving DecidableEq

/-- A fault right before the rest of the text. -/
def faultAt (kind : FaultKind) (rest : List Char) : Fault := ⟨kind, Text.Utf8.length rest⟩

/-- A fault at the first byte of the rest, which counts as read. -/
def faultPast (kind : FaultKind) (rest : List Char) : Fault := ⟨kind, Text.Utf8.length rest - 1⟩

/-- Line and column, both counted over the first `n` bytes of a text. -/
def positionAfter (line column n : Nat) : List Char → Nat × Nat
  | [] => (line, column)
  | c :: r =>
    if n = 0 then (line, column)
    else if c = '\n' then positionAfter (line + 1) 0 (n - 1) r
    else positionAfter line (column + min c.utf8Size n) (n - c.utf8Size) r

/-- Line and column of a fault in its text. -/
def Fault.position (f : Fault) (text : List Char) : Nat × Nat :=
  positionAfter 1 0 (Text.Utf8.length text - f.left) text

/-- The message for a fault in a text. -/
def Fault.message (f : Fault) (text : String) : String :=
  let (line, column) := f.position text.toList
  f.kind.text ++ " at line " ++ Nat.repr line ++ " column " ++ Nat.repr column

/-! ## blanks and words -/

/-- A character that may stand between tokens. -/
def isSpace (c : Char) : Bool := c = ' ' || c = '\n' || c = '\t' || c = '\r'

/-- Drops the blanks in front. -/
def skipSpace : List Char → List Char := List.dropWhile isSpace

/-- Reads the rest of a word of the language. -/
def word : List Char → List Char → Except Fault (List Char)
  | [], r => .ok r
  | _ :: _, [] => .error (faultAt .endInValue [])
  | w :: ws, c :: r => if c = w then word ws r else .error (faultPast .wantsWord (c :: r))

/-! ## numbers -/

/-- The value of a decimal digit. -/
def digit? (c : Char) : Option Nat :=
  if '0' ≤ c ∧ c ≤ '9' then some (c.toNat - '0'.toNat) else none

/-- Drops the digits in front. -/
def skipDigits : List Char → List Char := List.dropWhile fun c => (digit? c).isSome

/-- Digits read so far, as long as they fit a 64-bit word; the rest of the text. -/
structure Digits where
  value : Nat
  count : Nat
  full : Bool
  rest : List Char

/-- Reads digits until the next one would not fit a 64-bit word. -/
def takeDigits (value count : Nat) : List Char → Digits
  | [] => ⟨value, count, false, []⟩
  | c :: r => match digit? c with
    | none => ⟨value, count, false, c :: r⟩
    | some d =>
      if value * 10 + d < UInt64.size then takeDigits (value * 10 + d) (count + 1) r
      else ⟨value, count, true, c :: r⟩

/-- A double from sign, digits and exponent. -/
def realNumber (negative : Bool) (digits : Nat) (exponent : Int) (rest : List Char) :
    Except Fault (Number × List Char) :=
  match Binary64.ofDecimal negative digits exponent with
  | some x => .ok (.real x, rest)
  | none => .error (faultAt .outOfRange rest)

/-- Reads the digits of an exponent; `none` when they exceed a signed 32-bit word. -/
def exponentDigits (value : Nat) : List Char → Option Nat × List Char
  | [] => (some value, [])
  | c :: r => match digit? c with
    | none => (some value, c :: r)
    | some d =>
      if value * 10 + d < 0x80000000 then exponentDigits (value * 10 + d) r
      else (none, r)

/-- Reads what follows an `e`. -/
def exponentPart (negative : Bool) (digits : Nat) (start : Int) (r : List Char) :
    Except Fault (Number × List Char) :=
  let (down, r) := match r with
    | '+' :: r => (false, r)
    | '-' :: r => (true, r)
    | r => (false, r)
  match r with
  | [] => .error (faultAt .endInValue [])
  | c :: r' => match digit? c with
    | none => .error (faultPast .badNumber (c :: r'))
    | some d => match exponentDigits d r' with
      | (some e, rest) =>
        realNumber negative digits (if down then start - e else start + e) rest
      | (none, rest) =>
        if digits ≠ 0 ∧ !down then .error (faultAt .outOfRange rest)
        else .ok (.real (Binary64.zero negative), skipDigits rest)

/-- Ends a number, or reads its exponent. -/
def exponentOrEnd (negative : Bool) (digits : Nat) (start : Int) (r : List Char) :
    Except Fault (Number × List Char) :=
  match r with
  | 'e' :: r' | 'E' :: r' => exponentPart negative digits start r'
  | r => realNumber negative digits start r

/-- Reads what follows a point.  Digits that do not fit any more are dropped. -/
def fractionPart (negative : Bool) (digits : Nat) (start : Int) (r : List Char) :
    Except Fault (Number × List Char) :=
  let ds := takeDigits digits 0 r
  if ds.full then exponentOrEnd negative ds.value (start - ds.count) (skipDigits ds.rest)
  else if ds.count = 0 then
    match ds.rest with
    | [] => .error (faultAt .endInValue [])
    | r => .error (faultPast .badNumber r)
  else exponentOrEnd negative ds.value (start - ds.count) ds.rest

/-- Ends an integer, or reads on behind a point or an `e`. -/
def afterInteger (negative : Bool) (digits : Nat) (r : List Char) :
    Except Fault (Number × List Char) :=
  match r with
  | '.' :: r' => fractionPart negative digits 0 r'
  | 'e' :: r' | 'E' :: r' => exponentPart negative digits 0 r'
  | r =>
    if !negative then .ok (.int digits, r)
    else if digits ≠ 0 ∧ digits ≤ 0x8000000000000000 then .ok (.int (-digits), r)
    else realNumber true digits 0 r

/-- Reads on in an integer that does not fit a 64-bit word: the digits that are
left only raise the exponent. -/
def longInteger (negative : Bool) (digits : Nat) (r : List Char) :
    Except Fault (Number × List Char) :=
  let rest := skipDigits r
  let exponent : Int := r.length - rest.length
  match rest with
  | '.' :: r' => fractionPart negative digits exponent r'
  | r => exponentOrEnd negative digits exponent r

/-- Reads a number behind its sign. -/
def number (negative : Bool) (r : List Char) : Except Fault (Number × List Char) :=
  match r with
  | [] => .error (faultAt .endInValue [])
  | '0' :: r' => match r' with
    | c :: _ =>
      if (digit? c).isSome then .error (faultPast .badNumber r') else afterInteger negative 0 r'
    | [] => afterInteger negative 0 r'
  | c :: r' => match digit? c with
    | none => .error (faultPast .badNumber (c :: r'))
    | some d =>
      let ds := takeDigits d 1 r'
      if ds.full then longInteger negative ds.value ds.rest
      else afterInteger negative ds.value ds.rest

/-! ## strings -/

/-- The value of a hexadecimal digit. -/
def hexDigit? (c : Char) : Option Nat :=
  if '0' ≤ c ∧ c ≤ '9' then some (c.toNat - '0'.toNat)
  else if 'a' ≤ c ∧ c ≤ 'f' then some (c.toNat - 'a'.toNat + 10)
  else if 'A' ≤ c ∧ c ≤ 'F' then some (c.toNat - 'A'.toNat + 10)
  else none

/-- Reads four hexadecimal digits.  Four bytes count as read even if they are none. -/
def hexEscape (r : List Char) : Except Fault (Nat × List Char) :=
  let bad : Except Fault (Nat × List Char) :=
    if Text.Utf8.length (r.take 4) < 4 then .error (faultAt .endInString [])
    else .error ⟨.badEscape, Text.Utf8.length r - 4⟩
  match r with
  | a :: b :: c :: d :: rest =>
    match hexDigit? a, hexDigit? b, hexDigit? c, hexDigit? d with
    | some a, some b, some c, some d => .ok (((a * 16 + b) * 16 + c) * 16 + d, rest)
    | _, _, _, _ => bad
  | _ => bad

/-- Reads the second half of a surrogate pair. -/
def secondHalf (first : Nat) (r : List Char) : Except Fault (Char × List Char) :=
  match r with
  | [] => .error (faultAt .endInString [])
  | '\\' :: [] => .error (faultAt .endInString [])
  | '\\' :: 'u' :: r' => do
    let (n, rest) ← hexEscape r'
    if 0xDC00 ≤ n ∧ n ≤ 0xDFFF then
      return (Char.ofNat ((first - 0xD800) * 0x400 + (n - 0xDC00) + 0x10000), rest)
    else throw (faultAt .loneSurrogate rest)
  | '\\' :: r' => .error (faultPast .halfPair r')
  | r => .error (faultPast .halfPair r)

/-- Reads what follows a backslash. -/
def escape (r : List Char) : Except Fault (Char × List Char) :=
  match r with
  | [] => .error (faultAt .endInString [])
  | '"' :: r => .ok ('"', r)
  | '\\' :: r => .ok ('\\', r)
  | '/' :: r => .ok ('/', r)
  | 'b' :: r => .ok ('\x08', r)
  | 'f' :: r => .ok ('\x0c', r)
  | 'n' :: r => .ok ('\n', r)
  | 'r' :: r => .ok ('\r', r)
  | 't' :: r => .ok ('\t', r)
  | 'u' :: r => do
    let (n, rest) ← hexEscape r
    if 0xDC00 ≤ n ∧ n ≤ 0xDFFF then throw (faultAt .loneSurrogate rest)
    else if 0xD800 ≤ n ∧ n ≤ 0xDBFF then secondHalf n rest
    else return (Char.ofNat n, rest)
  | r => .error (faultPast .badEscape r)

/-- Reads the characters of a string behind its opening quote, the last one
first.  No string has more characters than there are left, which `fuel` counts. -/
def stringBody (fuel : Nat) (acc : List Char) (r : List Char) :
    Except Fault (List Char × List Char) :=
  match fuel with
  | 0 => .error (faultAt .endInString [])
  | fuel + 1 => match r with
    | [] => .error (faultAt .endInString [])
    | '"' :: r => .ok (acc, r)
    | '\\' :: r => do
      let (c, rest) ← escape r
      stringBody fuel (c :: acc) rest
    | c :: r =>
      if c.toNat < 0x20 then .error (faultPast .controlCharacter (c :: r))
      else stringBody fuel (c :: acc) r

/-- Reads a string behind its opening quote. -/
def stringText (r : List Char) : Except Fault (String × List Char) := do
  let (cs, rest) ← stringBody (r.length + 1) [] r
  return (String.ofList cs.reverse, rest)

/-! ## values -/

/-- A reader of one value. -/
abbrev ValueReader := List Char → Except Fault (Json × List Char)

/-- Reads list items up to the bracket, the last one first; `fuel` counts the
characters that are left. -/
def items (item : ValueReader) (fuel : Nat) (acc : List Json) (r : List Char) :
    Except Fault (List Json × List Char) :=
  match fuel with
  | 0 => .error (faultAt .endInList [])
  | fuel + 1 => match skipSpace r with
    | [] => .error (faultAt .endInList [])
    | ']' :: r => .ok (acc, r)
    | c :: r =>
      if acc.isEmpty then do
        let (v, rest) ← item (c :: r)
        items item fuel [v] rest
      else if c = ',' then
        match skipSpace r with
        | [] => .error (faultAt .endInValue [])
        | ']' :: r => .error (faultPast .trailingComma (']' :: r))
        | r => do
          let (v, rest) ← item r
          items item fuel (v :: acc) rest
      else .error (faultPast .wantsCommaOrBracket (c :: r))

/-- Reads a member behind the opening quote of its key. -/
def member (value : ValueReader) (r : List Char) : Except Fault ((String × Json) × List Char) := do
  let (k, r) ← stringText r
  match skipSpace r with
  | [] => throw (faultAt .endInObject [])
  | ':' :: r =>
    let (v, rest) ← value r
    return ((k, v), rest)
  | r => throw (faultPast .wantsColon r)

/-- Reads members up to the brace, the last one first; `fuel` counts the
characters that are left. -/
def members (value : ValueReader) (fuel : Nat) (acc : List (String × Json)) (r : List Char) :
    Except Fault (List (String × Json) × List Char) :=
  match fuel with
  | 0 => .error (faultAt .endInObject [])
  | fuel + 1 => match skipSpace r with
    | [] => .error (faultAt .endInObject [])
    | '}' :: r => .ok (acc, r)
    | c :: r =>
      if acc.isEmpty then
        if c = '"' then do
          let (p, rest) ← member value r
          members value fuel [p] rest
        else .error (faultPast .keyNotText (c :: r))
      else if c = ',' then
        match skipSpace r with
        | [] => .error (faultAt .endInValue [])
        | '"' :: r => do
          let (p, rest) ← member value r
          members value fuel (p :: acc) rest
        | '}' :: r => .error (faultPast .trailingComma ('}' :: r))
        | r => .error (faultPast .keyNotText r)
      else .error (faultPast .wantsCommaOrBrace (c :: r))

/-- Reads one value; a container needs two levels, so that with 128 levels
containers may stand 127 deep. -/
def value (levels : Nat) (r : List Char) : Except Fault (Json × List Char) :=
  match levels with
  | 0 => .error (faultPast .tooDeep r)
  | levels + 1 => match skipSpace r with
    | [] => .error (faultAt .endInValue [])
    | 'n' :: r => do
      let rest ← word ['u', 'l', 'l'] r
      return (.null, rest)
    | 't' :: r => do
      let rest ← word ['r', 'u', 'e'] r
      return (.bool true, rest)
    | 'f' :: r => do
      let rest ← word ['a', 'l', 's', 'e'] r
      return (.bool false, rest)
    | '-' :: r => do
      let (n, rest) ← number true r
      return (.num n, rest)
    | '"' :: r => do
      let (s, rest) ← stringText r
      return (.str s, rest)
    | '[' :: r =>
      if levels = 0 then .error (faultPast .tooDeep ('[' :: r))
      else do
        let (vs, rest) ← items (value levels) (r.length + 1) [] r
        return (.arr vs.reverse, rest)
    | '{' :: r =>
      if levels = 0 then .error (faultPast .tooDeep ('{' :: r))
      else do
        let (ps, rest) ← members (value levels) (r.length + 1) [] r
        return (object ps.reverse, rest)
    | c :: r =>
      if (digit? c).isSome then do
        let (n, rest) ← number false (c :: r)
        return (.num n, rest)
      else .error (faultPast .wantsValue (c :: r))

/-- Reads a text that holds one value and nothing else. -/
def readChars (cs : List Char) : Except Fault Json := do
  let (v, rest) ← value 128 cs
  match skipSpace rest with
  | [] => return v
  | r => throw (faultPast .trailingText r)

/-- The value of a JSON text. -/
def read (text : String) : Except Fault Json := readChars text.toList

/-- The value of a JSON text, or the message for the first fault in it. -/
def read? (text : String) : Except String Json :=
  match read text with
  | .ok v => .ok v
  | .error f => .error (f.message text)

end AlertDesk.Json
