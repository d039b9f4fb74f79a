import AlertDesk.Yaml.Event

/-!
# AlertDesk.Yaml.Document

The first document of a text, as the list of its nodes in the order in which
they are written.  An alias holds the place of the node it stands for.

A document keeps the fault that ended it: what is read of it before that point
is read as if the rest were sound.
-/

namespace AlertDesk.Yaml

/-- What a node, or the end of a collection, is. -/
inductive NodeKind where
  | scalar (tag : Option String) (text : String) (style : Style)
  | sequenceStart (tag : Option String)
  | sequenceEnd
  | mappingStart (tag : Option String)
  | mappingEnd
  /-- The node at a place of the document. -/
  | alias (place : Nat)
  /-- The only node of a text without documents. -/
  | void
  deriving DecidableEq

/-- A node, or the end of a collection, and where it begins. -/
structure Node where
  kind : NodeKind
  mark : Mark
  deriving DecidableEq

/-- A document. -/
structure Document where
  nodes : List Node
  /-- What is wrong behind the last node. -/
  fault : Option Fault := none
  /-- Whether anything follows the document. -/
  followed : Bool := false

namespace Document

/-- How far a document has been collected. -/
structure Builder where
  /-- The nodes, the last one first. -/
  nodes : List Node := []
  count : Nat := 0
  /-- The places of anchors, the last one first. -/
  anchors : List (String × Nat) := []

namespace Builder

/-- Adds a node. -/
def add (b : Builder) (kind : NodeKind) (mark : Mark) (anchor : Option String) : Builder where
  nodes := ⟨kind, mark⟩ :: b.nodes
  count := b.count + 1
  anchors := match anchor with
    | some name => (name, b.count) :: b.anchors
    | none => b.anchors

/-- The document collected. -/
def finish (b : Builder) (fault : Option Fault) (followed : Bool) : Document where
  nodes := b.nodes.reverse
  fault := fault
  followed := followed

end Builder

/-- Whether anything but the end of the text follows. -/
def anyLeft (problem : Option Problem) : List Event → Bool
  | [] => problem.isSome
  | e :: _ => e.kind ≠ .streamEnd

/-- Collects the nodes of the first document. -/
def collect (problem : Option Problem) (b : Builder) : List Event → Document
  | [] => b.finish (problem.map .malformed) false
  | e :: r => match e.kind with
    | .streamEnd => (b.add .void e.mark none).finish none false
    | .documentStart => collect problem b r
    | .documentEnd => b.finish none (anyLeft problem r)
    | .alias name => match b.anchors.find? (·.1 = name) with
      | some (_, place) => collect problem (b.add (.alias place) e.mark none) r
      | none => b.finish (some (.unknownAnchor e.mark)) false
    | .scalar anchor tag text style =>
      collect problem (b.add (.scalar tag text style) e.mark anchor) r
    | .sequenceStart anchor tag => collect problem (b.add (.sequenceStart tag) e.mark anchor) r
    | .sequenceEnd => collect problem (b.add .sequenceEnd e.mark none) r
    | .mappingStart anchor tag => collect problem (b.add (.mappingStart tag) e.mark anchor) r
    | .mappingEnd => collect problem (b.add .mappingEnd e.mark none) r

/-- Bytes before the first character that YAML does not allow, if there is one. -/
def controlOffset? (offset : Nat) : List Char → Option Nat
  | [] => none
  | c :: r => if isAllowed c then controlOffset? (offset + c.utf8Size) r else some offset

/-- The first document of a text. -/
def read (text : String) : Document :=
  match controlOffset? 0 text.toList with
  | some offset => { nodes := [], fault := some (.controlCharacter offset) }
  | none =>
    let (es, problem) := events text.toList
    collect problem {} es

/-- What is wrong with a document apart from what its nodes hold. -/
def fault? (d : Document) : Option Fault :=
  d.fault.or (if d.followed then some .moreThanOneDocument else none)

/-! ## walking -/

/-- Nodes that are left to be read. -/
abbrev Rest := List Node

/-- A node to be read: itself, what follows inside it, and where reading goes on
if it was reached through an alias. -/
structure Entered where
  node : Node
  inside : Rest
  after : Option Rest := none

/-- The next node; an alias leads to the node it stands for. -/
def enter (d : Document) : Rest → Option Entered
  | [] => none
  | n :: r => match n.kind with
    | .alias place => match d.nodes.drop place with
      | target :: inside => some { node := target, inside, after := some r }
      | [] => none
    | _ => some { node := n, inside := r }

/-- Where reading goes on behind a node. -/
def Entered.behind (e : Entered) (inside : Rest) : Rest := e.after.getD inside

/-- Passes over a node, `depth` collections being open; `none` if nodes run out. -/
def skip (depth : Nat) : Rest → Option Rest
  | [] => none
  | n :: r => match n.kind with
    | .sequenceStart _ | .mappingStart _ => skip (depth + 1) r
    | .sequenceEnd | .mappingEnd => if depth ≤ 1 then some r else skip (depth - 1) r
    | .scalar .. | .alias _ | .void => if depth = 0 then some r else skip depth r

end Document

end AlertDesk.Yaml
