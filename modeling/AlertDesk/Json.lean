import AlertDesk.Keyed
import AlertDesk.Binary64.Shortest
import AlertDesk.Text.Quoted

/-!
# AlertDesk.Json

JSON values.  A number is an integer or a double: a literal without point and
exponent that fits a signed or unsigned 64-bit word stays an integer, every
other one is a double.  An object is an association list; the reader makes it
ascending, so two objects with the same members are equal.

`describe` names a value in messages about a value of the wrong kind.
-/

namespace AlertDesk

/-- A JSON number. -/
inductive Number where
  /-- An integer in the range of a 64-bit word, signed or unsigned. -/
  | int (value : Int)
  /-- A double. -/
  | real (value : Binary64)
  deriving DecidableEq

/-- The text of a number. -/
def Number.text : Number → String
  | .int i => if i < 0 then "-" ++ Nat.repr i.natAbs else Nat.repr i.natAbs
  | .real x => x.text

/-- A JSON value. -/
inductive Json where
  | null
  | bool (value : Bool)
  | num (value : Number)
  | str (value : String)
  | arr (items : List Json)
  | obj (members : List (String × Json))

namespace Json

instance : Inhabited Json := ⟨null⟩

/-! ## equality -/

mutual

/-- Equality of values is decidable. -/
def decEq : (a b : Json) → Decidable (a = b)
  | .null, .null => isTrue rfl
  | .bool a, .bool b => if h : a = b then isTrue (by rw [h]) else isFalse (by simpa using h)
  | .num a, .num b => if h : a = b then isTrue (by rw [h]) else isFalse (by simpa using h)
  | .str a, .str b => if h : a = b then isTrue (by rw [h]) else isFalse (by simpa using h)
  | .arr a, .arr b => match decEqItems a b with
    | isTrue h => isTrue (by rw [h])
    | isFalse h => isFalse (by simpa using h)
  | .obj a, .obj b => match decEqMembers a b with
    | isTrue h => isTrue (by rw [h])
    | isFalse h => isFalse (by simpa using h)
  | .null, .bool _ | .null, .num _ | .null, .str _ | .null, .arr _ | .null, .obj _ =>
    isFalse (by simp)
  | .bool _, .null | .bool _, .num _ | .bool _, .str _ | .bool _, .arr _ | .bool _, .obj _ =>
    isFalse (by simp)
  | .num _, .null | .num _, .bool _ | .num _, .str _ | .num _, .arr _ | .num _, .obj _ =>
    isFalse (by simp)
  | .str _, .null | .str _, .bool _ | .str _, .num _ | .str _, .arr _ | .str _, .obj _ =>
    isFalse (by simp)
  | .arr _, .null | .arr _, .bool _ | .arr _, .num _ | .arr _, .str _ | .arr _, .obj _ =>
    isFalse (by simp)
  | .obj _, .null | .obj _, .bool _ | .obj _, .num _ | .obj _, .str _ | .obj _, .arr _ =>
    isFalse (by simp)

/-- Equality of item lists is decidable. -/
def decEqItems : (a b : List Json) → Decidable (a = b)
  | [], [] => isTrue rfl
  | a :: as, b :: bs => match decEq a b, decEqItems as bs with
    | isTrue h, isTrue k => isTrue (by rw [h, k])
    | isFalse h, _ => isFalse (by simp [h])
    | _, isFalse k => isFalse (by simp [k])
  | [], _ :: _ | _ :: _, [] => isFalse (by simp)

/-- Equality of member lists is decidable. -/
def decEqMembers : (a b : List (String × Json)) → Decidable (a = b)
  | [], [] => isTrue rfl
  | (i, a) :: as, (j, b) :: bs =>
    if hi : i = j then match decEq a b, decEqMembers as bs with
      | isTrue h, isTrue k => isTrue (by rw [hi, h, k])
      | isFalse h, _ => isFalse (by simp [h])
      | _, isFalse k => isFalse (by simp [k])
    else isFalse (by simp [hi])
  | [], _ :: _ | _ :: _, [] => isFalse (by simp)

end

instance : DecidableEq Json := decEq

/-! ## building and looking up -/

/-- A natural number as a value. -/
def ofNat (n : Nat) : Json := .num (.int n)

/-- A 64-bit word as a value. -/
def ofUInt64 (n : UInt64) : Json := .num (.int n.toNat)

/-- An object from pairs in any order; a later value for a key replaces an earlier one. -/
def object (pairs : List (String × Json)) : Json := .obj (Keyed.ofList pairs)

/-- A text or nothing. -/
def ofText? : Option String → Json
  | some s => .str s
  | none => .null

/-- The member of an object under a key. -/
def get? (v : Json) (key : String) : Option Json :=
  match v with
  | .obj members => Keyed.get? key members
  | _ => none

/-- The text of a string value. -/
def text? : Json → Option String
  | .str s => some s
  | _ => none

/-! ## naming a value in a message -/

/-- How a message names a value that is not of the wanted kind. -/
def describe : Json → String
  | .null => "null"
  | .bool b => "boolean `" ++ (if b then "true" else "false") ++ "`"
  | .num (.int i) => "integer `" ++ (Number.int i).text ++ "`"
  | .num (.real x) => "floating point `" ++ x.text ++ "`"
  | .str s => "string " ++ Text.quoted s
  | .arr _ => "sequence"
  | .obj _ => "map"

end Json

end AlertDesk
