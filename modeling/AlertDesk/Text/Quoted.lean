import AlertDesk.Text.Invisible

/-!
# AlertDesk.Text.Quoted

Text between double quotes, as messages show a value that was not expected:
quotes and backslashes get a backslash, tab, newline, return and NUL their
letter, and every other invisible character its number in braces.
-/

namespace AlertDesk.Text

/-- Hexadecimal digits, lower case, no leading zero. -/
def hex (n : Nat) : List Char := Nat.toDigits 16 n

/-- One character as it stands between quotes. -/
def quoteChar (c : Char) : List Char :=
  if c = '"' then ['\\', '"']
  else if c = '\\' then ['\\', '\\']
  else if c = '\t' then ['\\', 't']
  else if c = '\r' then ['\\', 'r']
  else if c = '\n' then ['\\', 'n']
  else if c = '\x00' then ['\\', '0']
  else if isInvisible c then ['\\', 'u', '{'] ++ hex c.toNat ++ ['}']
  else [c]

/-- A text between quotes. -/
def quoted (s : String) : String :=
  String.ofList ('"' :: s.toList.flatMap quoteChar ++ ['"'])

end AlertDesk.Text
