import AlertDesk.Url.Form

/-!
# AlertDesk.Url.Path

Paths as lists of segments.  A path that ends with a slash has an empty last
segment; the path `/` is the one with a single empty segment.

The segments `.` and `..`, also with their dots percent-encoded, are never kept:
the first stands for the place where it is, the second takes back the segment
before.  This holds for the segments of a written path (`resolve`) and for a
segment that is added (`push`), which is first encoded so that it stays one
segment, tabs and line breaks being dropped.

Main facts: `push_plain`, a segment that is not made of dots is added at the end;
`push_parent`, the other case that matters, takes a segment away.
-/

namespace AlertDesk.Url.Path

/-- What a segment does to the path before it. -/
inductive Step where
  | stay
  | back
  | enter (segment : String)
  deriving DecidableEq

/-- Reads `.` and `%2e` as dots. -/
def dots? : List Char → Option Nat
  | [] => some 0
  | '.' :: r => (dots? r).map (· + 1)
  | '%' :: '2' :: 'e' :: r | '%' :: '2' :: 'E' :: r => (dots? r).map (· + 1)
  | _ => none

/-- The step that an encoded segment stands for. -/
def Step.of (encoded : List Char) : Step :=
  match dots? encoded with
  | some 1 => .stay
  | some 2 => .back
  | _ => .enter (String.ofList encoded)

/-- Takes a step; `last` says that nothing follows, so that a step that adds no
segment leaves a slash at the end. -/
def take (path : List String) (last : Bool) : Step → List String
  | .enter segment => path ++ [segment]
  | .stay => if last then path ++ [""] else path
  | .back => if last then path.dropLast ++ [""] else path.dropLast

/-- Takes steps in turn. -/
def walk (path : List String) : List Step → List String
  | [] => path
  | s :: r => walk (take path r.isEmpty s) r

/-- The path of raw segments. -/
def resolve (segments : List (List Char)) : List String :=
  walk [] (segments.map fun s => Step.of (Percent.encode Percent.pathSet s))

/-- Drops an empty segment at the end, but not the only one. -/
def dropEmptyEnd (path : List String) : List String :=
  if 1 < path.length ∧ path.getLast? = some "" then path.dropLast else path

/-- Tabs and line breaks, which no URL keeps. -/
def isDropped (c : Char) : Bool := c = '\t' || c = '\n' || c = '\r'

/-- The encoded form of a segment that is to be added. -/
def encodeSegment (special : Bool) (s : String) : List Char :=
  Percent.encode (Percent.segmentSet special) (s.toList.filter (!isDropped ·))

/-- Adds a segment; `.` and `..` are passed over. -/
def push (special : Bool) (path : List String) (s : String) : List String :=
  if s = "." ∨ s = ".." then path
  else take (if path = [""] then [] else path) true (Step.of (encodeSegment special s))

/-- The text of a path. -/
def text (path : List String) : List Char := path.flatMap fun s => '/' :: s.toList

/-! ## adding a segment -/

theorem push_plain {special : Bool} {path : List String} {s : String}
    (hs : s ≠ "." ∧ s ≠ "..") (hp : path ≠ [""])
    (hd : dots? (encodeSegment special s) ≠ some 1 ∧ dots? (encodeSegment special s) ≠ some 2) :
    push special path s = path ++ [String.ofList (encodeSegment special s)] := by
  have : Step.of (encodeSegment special s) = .enter (String.ofList (encodeSegment special s)) := by
    unfold Step.of
    split
    · next h => exact absurd h hd.1
    · next h => exact absurd h hd.2
    · rfl
  simp [push, hs.1, hs.2, hp, this, take]

theorem push_parent {special : Bool} {path : List String} {s : String}
    (hs : s ≠ "." ∧ s ≠ "..") (hp : path ≠ [""])
    (hd : dots? (encodeSegment special s) = some 2) :
    push special path s = path.dropLast ++ [""] := by
  simp [push, hs.1, hs.2, hp, Step.of, hd, take]

end AlertDesk.Url.Path
