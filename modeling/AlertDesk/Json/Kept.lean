import AlertDesk.Json.Skip

/-!
# AlertDesk.Json.Kept

JSON texts whose outer objects are looked at member by member.  A record that is
read from a text, and not from a value, is given its members in the order in
which they are written, those that are repeated among them; so a repeated field
is found.  And it is given only those members that it has a field for; the values
of the others are passed over.

`kept` reads the objects down to a depth so, and those further in as `value` does.
`selected` leaves out the members of the outermost object that are not asked for.
-/

namespace AlertDesk.Json

/-! ## all members -/

/-- Reads a value whose objects down to a depth keep their members as they are written. -/
def kept (depth levels : Nat) (r : List Char) : Except Fault (Json × List Char) :=
  match depth, levels with
  | depth + 1, levels + 2 => match skipSpace r with
    | '[' :: r => do
      let (vs, rest) ← items (kept depth (levels + 1)) (r.length + 1) [] r
      return (.arr vs.reverse, rest)
    | '{' :: r => do
      let (ps, rest) ← members (kept depth (levels + 1)) (r.length + 1) [] r
      return (.obj ps.reverse, rest)
    | _ => value (levels + 2) r
  | _, levels => value levels r

/-- Reads a text that holds one value and nothing else; the value and what it
holds keep their members. -/
def keptChars (cs : List Char) : Except Fault Json := do
  let (v, rest) ← kept 2 128 cs
  match skipSpace rest with
  | [] => return v
  | r => throw (faultPast .trailingText r)

/-! ## some members -/

/-- Reads a text that is made of characters. -/
def whole (read : List Char → Except Fault Json) (us : Raw) : Option Json :=
  (us.mapM id).bind fun cs => (read cs).toOption

/-- The characters in front of the first bytes that are none. -/
def frontChars : Raw → List Char
  | some c :: us => c :: frontChars us
  | _ => []

/-- Reads what is in front. -/
def readFront {α : Type} (reader : List Char → Except Fault (α × List Char)) (us : Raw) :
    Option (α × Raw) :=
  match reader (frontChars us) with
  | .ok (a, rest) => some (a, rest.map some ++ us.dropWhile Option.isSome)
  | .error _ => none

/-- Reads a member if its key is asked for, and passes over its value if not. -/
def selectMember (asked : String → Bool) (reader : ValueReader) (ps : List (String × Json)) :
    Raw → Option (List (String × Json) × Raw)
  | some '"' :: us => do
    let (key, us) ← readFront stringText us
    match Skip.space us with
    | some ':' :: us =>
      if asked key then (readFront reader us).map fun p => ((key, p.1) :: ps, p.2)
      else (Skip.value us.length us).map fun rest => (ps, rest)
    | _ => none
  | _ => none

/-- Reads a text that holds one value and nothing else; of an object, the members
whose keys are asked for. -/
def selected (asked : String → Bool) (us : Raw) : Option Json :=
  match Skip.space us with
  | some '{' :: r => do
    let (ps, rest) ← Skip.parts '}' (selectMember asked (kept 1 127)) (r.length + 1) true [] r
    if Skip.space rest = [] then some (.obj ps.reverse) else none
  | _ => whole keptChars us

end AlertDesk.Json
