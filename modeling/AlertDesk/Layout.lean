import AlertDesk.Json

/-!
# AlertDesk.Layout

Records as JSON: the named fields of a record type, what each may hold, and
how a value is matched against them.

A `Layout` lists the fields.  A field may have a second spelling; it accepts
null, which always means the same as leaving the field out, and the values of
its own type.  `read` takes

* an object: its members are looked at in their order, members that are no
  field of the type are passed over, and a field given twice (under its two
  spellings) is refused;
* an array: its items stand for the fields in their order, and the fields
  that are left count as left out.

The result lists what was given under each field's own name; the first fault
met in that order is the one reported.  `readObject` takes objects only, for
types that keep their other members.
-/

namespace AlertDesk

/-- A JSON value that does not have the wanted shape. -/
inductive Mismatch where
  /-- A value of another type. -/
  | wrongType (found : Json) (wanted : String)
  /-- A value of the right type that is out of range. -/
  | wrongValue (found : Json) (wanted : String)
  /-- A field that is given twice. -/
  | duplicateField (name : String)
  /-- An array with more items than the type has fields. -/
  | tooLong (length : Nat)
  deriving DecidableEq

/-- The text of a mismatch. -/
def Mismatch.message : Mismatch → String
  | .wrongType found wanted => "invalid type: " ++ found.describe ++ ", expected " ++ wanted
  | .wrongValue found wanted => "invalid value: " ++ found.describe ++ ", expected " ++ wanted
  | .duplicateField name => "duplicate field `" ++ name ++ "`"
  | .tooLong length =>
    "invalid length " ++ Nat.repr length ++ ", expected fewer elements in array"

/-! ## what a field may hold -/

/-- A test of the value of a field. -/
abbrev Check := Json → Except Mismatch Unit

/-- Null or a string. -/
def checkText : Check
  | .null | .str _ => .ok ()
  | v => .error (.wrongType v "a string")

/-- Null or an array. -/
def checkList : Check
  | .null | .arr _ => .ok ()
  | v => .error (.wrongType v "a sequence")

/-- Null or an integer that fits an unsigned 64-bit word. -/
def checkCount : Check
  | .null => .ok ()
  | .num (.int i) =>
    if i < 0 then .error (.wrongValue (.num (.int i)) "u64")
    else if i < UInt64.size then .ok ()
    else .error (.wrongType (.num (.int i)) "u64")
  | v => .error (.wrongType v "u64")

/-- The text of a field; the empty one for null or nothing. -/
def textOf : Option Json → String
  | some (.str s) => s
  | _ => ""

/-- The items of a field; none for null or nothing. -/
def itemsOf : Option Json → List Json
  | some (.arr vs) => vs
  | _ => []

/-- The number in a field, if there is one. -/
def countOf : Option Json → Option UInt64
  | some (.num (.int i)) => some (UInt64.ofNat i.toNat)
  | _ => none

/-! ## fields and layouts -/

/-- A named field of a record type. -/
structure Field where
  name : String
  otherName : Option String := none
  check : Check

/-- Whether a key names the field. -/
def Field.spells (f : Field) (key : String) : Bool := key = f.name || some key = f.otherName

/-- The fields of a record type. -/
structure Layout where
  wanted : String
  fields : List Field

namespace Layout

/-- The field that a key names. -/
def field? (l : Layout) (key : String) : Option Field := l.fields.find? (·.spells key)

/-- Whether a key names a field. -/
def owns (l : Layout) (key : String) : Bool := (l.field? key).isSome

/-- Matches members against the fields; `seen` holds the fields met before. -/
def readMembers (l : Layout) (seen : List String) :
    List (String × Json) → Except Mismatch (List (String × Json))
  | [] => .ok []
  | (key, v) :: r => match l.field? key with
    | none => l.readMembers seen r
    | some f =>
      if f.name ∈ seen then .error (.duplicateField f.name)
      else do
        f.check v
        let rest ← l.readMembers (f.name :: seen) r
        return (f.name, v) :: rest

/-- Matches items against fields by position; `length` is the length of the whole array. -/
def readItems (length : Nat) : List Field → List Json → Except Mismatch (List (String × Json))
  | _, [] => .ok []
  | [], _ :: _ => .error (.tooLong length)
  | f :: fs, v :: r => do
    f.check v
    let rest ← readItems length fs r
    return (f.name, v) :: rest

/-- Matches an object. -/
def readObject (l : Layout) : Json → Except Mismatch (List (String × Json))
  | .obj members => l.readMembers [] members
  | v => .error (.wrongType v l.wanted)

/-- Matches an object or an array. -/
def read (l : Layout) : Json → Except Mismatch (List (String × Json))
  | .arr items => readItems items.length l.fields items
  | v => l.readObject v

/-- The members of an object that are no field. -/
def others (l : Layout) : Json → List (String × Json)
  | .obj members => members.filter fun p => !l.owns p.1
  | _ => []

end Layout

end AlertDesk
