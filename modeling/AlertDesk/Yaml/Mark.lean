/-!
# AlertDesk.Yaml.Mark

Places in a YAML text, and what can be wrong there.

A `Problem` says what is wrong, where, and what was being read.  A place at the
very start of the text is not mentioned in a message.
-/

namespace AlertDesk.Yaml

/-- A place in a text, everything counted from 0. -/
structure Mark where
  index : Nat := 0
  line : Nat := 0
  column : Nat := 0
  deriving DecidableEq

namespace Mark

/-- Whether this is the start of the first line. -/
def isStart (m : Mark) : Bool := m.line = 0 && m.column = 0

/-- Whether two marks are the same place. -/
def same (a b : Mark) : Bool := a.line = b.line && a.column = b.column

/-- The place as a message names it. -/
def text (m : Mark) : String :=
  " at line " ++ Nat.repr (m.line + 1) ++ " column " ++ Nat.repr (m.column + 1)

/-- The place, unless it is the start. -/
def suffix (m : Mark) : String := if m.isStart then "" else m.text

end Mark

/-- What was being read when something went wrong, and where that began. -/
structure Context where
  reading : String
  mark : Mark
  deriving DecidableEq

/-- Something wrong in a text. -/
structure Problem where
  what : String
  mark : Mark
  context : Option Context := none
  deriving DecidableEq

/-- The text of a problem.  Where the context began is left out if it is the
place of the problem itself. -/
def Problem.message (p : Problem) : String :=
  let context := match p.context with
    | none => ""
    | some c => ", " ++ c.reading ++ (if c.mark.same p.mark then "" else c.mark.suffix)
  p.what ++ p.mark.suffix ++ context

/-- Why a text is not a single sound document. -/
inductive Fault where
  | malformed (problem : Problem)
  /-- A character that YAML does not allow, and the bytes before it. -/
  | controlCharacter (offset : Nat)
  | unknownAnchor (mark : Mark)
  | moreThanOneDocument
  deriving DecidableEq

/-- The text of a fault. -/
def Fault.message : Fault → String
  | .malformed problem => problem.message
  | .controlCharacter offset =>
    "control characters are not allowed" ++
      (if offset = 0 then "" else " at position " ++ Nat.repr offset)
  | .unknownAnchor mark => "unknown anchor" ++ mark.suffix
  | .moreThanOneDocument =>
    "deserializing from YAML containing more than one document is not supported"

end AlertDesk.Yaml
