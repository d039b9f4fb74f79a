import AlertDesk.Yaml.Document
import AlertDesk.Yaml.Scalar

/-!
# AlertDesk.Yaml.Value

Whole documents as values.  A text loads as a value only if it is one sound
document: no key of a mapping may occur twice, scalars have the type their tag
asks for, collections stand at most 128 deep, and aliases are followed at most a
hundred times as often as the document has nodes.
-/

namespace AlertDesk.Yaml

/-- A value. -/
inductive Value where
  | scalar (value : Scalar)
  | sequence (items : List Value)
  | mapping (entries : List (Value × Value))
  | tagged (tag : String) (value : Value)

namespace Value

instance : Inhabited Value := ⟨scalar .null⟩

/-! ## equality of keys -/

mutual

/-- Whether two values are the same key. -/
def same : Value → Value → Bool
  | .scalar (.real x), .scalar (.real y) =>
    x = y || (x.significand = 0 && y.significand = 0)
  | .scalar a, .scalar b => a = b
  | .sequence as, .sequence bs => sameItems as bs
  | .mapping as, .mapping bs => sameEntries as bs
  | .tagged s a, .tagged t b => s = t && same a b
  | _, _ => false

/-- Whether two lists of items are the same. -/
def sameItems : List Value → List Value → Bool
  | [], [] => true
  | a :: as, b :: bs => same a b && sameItems as bs
  | _, _ => false

/-- Whether two lists of entries are the same. -/
def sameEntries : List (Value × Value) → List (Value × Value) → Bool
  | [], [] => true
  | (i, a) :: as, (j, b) :: bs => same i j && same a b && sameEntries as bs
  | _, _ => false

end

/-! ## loading -/

/-- A reader of one value: the value, what follows it, and how many aliases have
been followed so far. -/
abbrev Loader := Document.Rest → Nat → Option (Value × Document.Rest × Nat)

/-- Reads items up to the end of the sequence; `fuel` counts the nodes left. -/
def loadItems (item : Loader) (fuel : Nat) (acc : List Value) (rest : Document.Rest)
    (jumps : Nat) : Option (List Value × Document.Rest × Nat) :=
  match fuel, rest with
  | 0, _ | _, [] => none
  | fuel + 1, n :: r =>
    if n.kind = .sequenceEnd then some (acc.reverse, r, jumps)
    else do
      let (v, rest, jumps) ← item (n :: r) jumps
      loadItems item fuel (v :: acc) rest jumps

/-- Reads entries up to the end of the mapping; `fuel` counts the nodes left. -/
def loadEntries (item : Loader) (fuel : Nat) (acc : List (Value × Value))
    (rest : Document.Rest) (jumps : Nat) :
    Option (List (Value × Value) × Document.Rest × Nat) :=
  match fuel, rest with
  | 0, _ | _, [] => none
  | fuel + 1, n :: r =>
    if n.kind = .mappingEnd then some (acc.reverse, r, jumps)
    else do
      let (k, rest, jumps) ← item (n :: r) jumps
      if acc.any fun p => p.1.same k then none
      else
        let (v, rest, jumps) ← item rest jumps
        loadEntries item fuel ((k, v) :: acc) rest jumps

/-- A value under its tag, if it has one of its own. -/
def underTag (tag : Option String) (v : Value) : Value :=
  match Scalar.localTag? tag with
  | some name => .tagged name v
  | none => v

/-- The value of a scalar; integers beyond 64 bits have none. -/
def ofScalar (tag : Option String) (text : String) (style : Style) : Option Value :=
  let own := (Scalar.localTag? tag).isSome
  match Scalar.resolve (if own then none else tag) text style with
  | .ok (.wide _) | .error _ => none
  | .ok s => some (underTag tag (.scalar s))

/-- Reads a value in a document; `depth` counts the levels that may still be opened. -/
def load (d : Document) (depth : Nat) : Loader := fun rest jumps => do
  let e ← d.enter rest
  let jumps := if e.after.isSome then jumps + 1 else jumps
  if d.nodes.length * 100 < jumps then none
  else match e.node.kind with
    | .scalar tag text style => do
      return (← ofScalar tag text style, e.behind e.inside, jumps)
    | .void => some (.scalar .null, e.behind e.inside, jumps)
    | .sequenceStart tag => match depth with
      | 0 => none
      | depth + 1 => do
        let (items, inside, jumps) ←
          loadItems (load d depth) (e.inside.length + 1) [] e.inside jumps
        return (underTag tag (.sequence items), e.behind inside, jumps)
    | .mappingStart tag => match depth with
      | 0 => none
      | depth + 1 => do
        let (entries, inside, jumps) ←
          loadEntries (load d depth) (e.inside.length + 1) [] e.inside jumps
        return (underTag tag (.mapping entries), e.behind inside, jumps)
    | .sequenceEnd | .mappingEnd | .alias _ => none

/-- The value of a text, if it is one sound document. -/
def ofText? (text : String) : Option Value :=
  let d := Document.read text
  match load d 128 d.nodes 0 with
  | some (v, _, _) => if d.fault?.isSome then none else some v
  | none => none

end Value

end AlertDesk.Yaml
