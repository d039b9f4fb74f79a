import AlertDesk.Json

/-!
# AlertDesk.Json.Printer

The two layouts of a JSON text.  `compact` has no blanks; `pretty` puts every
item and member on a line of its own, indented by two blanks a level, and
leaves empty containers as `[]` and `{}`.

Strings escape only the quote, the backslash and the characters below U+0020.
-/

namespace AlertDesk.Json

/-! ## strings -/

/-- Four hexadecimal digits, lower case. -/
def hex4 (n : Nat) : List Char :=
  let ds := Nat.toDigits 16 n
  List.replicate (4 - ds.length) '0' ++ ds

/-- One character inside a JSON string. -/
def escapeChar (c : Char) : List Char :=
  if c = '"' then ['\\', '"']
  else if c = '\\' then ['\\', '\\']
  else if c = '\x08' then ['\\', 'b']
  else if c = '\x0c' then ['\\', 'f']
  else if c = '\n' then ['\\', 'n']
  else if c = '\r' then ['\\', 'r']
  else if c = '\t' then ['\\', 't']
  else if c.toNat < 0x20 then '\\' :: 'u' :: hex4 c.toNat
  else [c]

/-- A JSON string. -/
def stringChars (s : String) : List Char :=
  '"' :: s.toList.flatMap escapeChar ++ ['"']

/-! ## compact -/

mutual

/-- The compact text of a value. -/
def compactChars : Json → List Char
  | .null => "null".toList
  | .bool b => (if b then "true" else "false").toList
  | .num n => n.text.toList
  | .str s => stringChars s
  | .arr items => '[' :: compactItems items ++ [']']
  | .obj members => '{' :: compactMembers members ++ ['}']

/-- Items with commas between them. -/
def compactItems : List Json → List Char
  | [] => []
  | [v] => compactChars v
  | v :: r => compactChars v ++ ',' :: compactItems r

/-- Members with commas between them. -/
def compactMembers : List (String × Json) → List Char
  | [] => []
  | [(k, v)] => stringChars k ++ ':' :: compactChars v
  | (k, v) :: r => stringChars k ++ ':' :: compactChars v ++ ',' :: compactMembers r

end

/-- The compact text of a value. -/
def compact (v : Json) : String := String.ofList (compactChars v)

/-! ## pretty -/

/-- A line break and the indentation of a level. -/
def newLine (level : Nat) : List Char := '\n' :: List.replicate (2 * level) ' '

mutual

/-- The pretty text of a value that stands at an indentation level. -/
def prettyChars (level : Nat) : Json → List Char
  | .null => "null".toList
  | .bool b => (if b then "true" else "false").toList
  | .num n => n.text.toList
  | .str s => stringChars s
  | .arr [] => ['[', ']']
  | .arr (v :: r) =>
    '[' :: newLine (level + 1) ++ prettyItems (level + 1) (v :: r) ++ newLine level ++ [']']
  | .obj [] => ['{', '}']
  | .obj (p :: r) =>
    '{' :: newLine (level + 1) ++ prettyMembers (level + 1) (p :: r) ++ newLine level ++ ['}']

/-- Items on lines of their own. -/
def prettyItems (level : Nat) : List Json → List Char
  | [] => []
  | [v] => prettyChars level v
  | v :: r => prettyChars level v ++ ',' :: newLine level ++ prettyItems level r

/-- Members on lines of their own. -/
def prettyMembers (level : Nat) : List (String × Json) → List Char
  | [] => []
  | [(k, v)] => stringChars k ++ ':' :: ' ' :: prettyChars level v
  | (k, v) :: r =>
    stringChars k ++ ':' :: ' ' :: prettyChars level v ++ ',' :: newLine level ++
      prettyMembers level r

end

/-- The pretty text of a value. -/
def pretty (v : Json) : String := String.ofList (prettyChars 0 v)

end AlertDesk.Json
