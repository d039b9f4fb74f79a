import AlertDesk.Settings
import AlertDesk.Yaml.Document
import AlertDesk.Yaml.Scalar

/-!
# AlertDesk.Config

The configuration file: a YAML mapping whose entry `portal` is a mapping with
the settings of the portal.  Other entries are passed over.

The file is read node by node, and the first thing that does not fit is the
fault, even if something later in the text is no YAML.  A fault names the entry
it is in and where that stands; what concerns the portal's settings as a whole
is reported where the file's mapping begins.
-/

namespace AlertDesk.Config

open Yaml (Document Mark Node Scalar Style)
open Yaml.Document (Entered Rest)

/-! ## faults -/

/-- What does not fit. -/
inductive Misfit where
  /-- A node of another type. -/
  | wrongType (found wanted : String)
  /-- A text that is not of the type that its tag asks for. -/
  | wrongValue (text wanted : String)
  | missingField (name : String)
  | duplicateField (name : String)
  | settings (fault : Settings.Fault)
  deriving DecidableEq

/-- The text of a misfit. -/
def Misfit.message : Misfit → String
  | .wrongType found wanted => "invalid type: " ++ found ++ ", expected " ++ wanted
  | .wrongValue text wanted =>
    "invalid value: string " ++ Text.quoted text ++ ", expected " ++ wanted
  | .missingField name => "missing field `" ++ name ++ "`"
  | .duplicateField name => "duplicate field `" ++ name ++ "`"
  | .settings fault => fault.message

/-- What is wrong with a configuration file. -/
inductive Fault where
  | yaml (fault : Yaml.Fault)
  /-- A misfit in an entry, `""` being the whole file. -/
  | misfit (entry : String) (what : Misfit) (mark : Mark)
  deriving DecidableEq

/-- The text of a fault without its place. -/
def Fault.summary : Fault → String
  | .yaml fault => fault.message
  | .misfit entry what _ => (if entry = "" then "" else entry ++ ": ") ++ what.message

/-- The text of a fault. -/
def Fault.message : Fault → String
  | .yaml fault => fault.message
  | .misfit entry what mark => (Fault.misfit entry what mark).summary ++ mark.suffix

/-! ## nodes -/

/-- Reading part of a file. -/
abbrev Result := Except Fault

/-- The fault of a document whose nodes run out. -/
def ranOut {α : Type} (d : Document) : Result α :=
  .error (.yaml (d.fault.getD (.malformed { what := "EOF while parsing a value", mark := {} })))

/-- The next node. -/
def next (d : Document) (rest : Rest) : Result Entered :=
  match d.enter rest with
  | some e => .ok e
  | none => ranOut d

/-- Passes over the next node. -/
def pass (d : Document) (rest : Rest) : Result Rest :=
  match Document.skip 0 rest with
  | some rest => .ok rest
  | none => ranOut d

/-- A misfit at a node. -/
def misfit {α : Type} (entry : String) (what : Misfit) (mark : Mark) : Result α :=
  .error (.misfit entry what mark)

/-- A node that is not of the wanted type. -/
def unwanted {α : Type} (entry wanted : String) (n : Node) : Result α :=
  let found (s : String) : Result α := misfit entry (.wrongType s wanted) n.mark
  match n.kind with
  | .scalar tag text style => match Scalar.resolve tag text style with
    | .ok s => found s.describe
    | .error name => misfit entry (.wrongValue text name) n.mark
  | .sequenceStart _ | .sequenceEnd => found "sequence"
  | .mappingStart _ | .mappingEnd => found "map"
  | .alias _ | .void => found "unit value"

/-- Whether a scalar can be read as a value of a core type: it is plain, or it is
a literal block with the tag of that type. -/
def readsAs (name : String) (tag : Option String) (style : Style) : Bool :=
  style = .plain || (style = .literal && tag = some (Scalar.coreTag name))

/-- A reader of the value in an entry. -/
abbrev FieldReader (α : Type) := (entry : String) → Node → Result α

/-- Reads a text; every scalar is one. -/
def asText : FieldReader String := fun entry n =>
  match n.kind with
  | .scalar _ text _ => .ok text
  | _ => unwanted entry "a string" n

/-- Reads a boolean. -/
def asBool : FieldReader Bool := fun entry n =>
  match n.kind with
  | .scalar tag text style =>
    match if readsAs "bool" tag style then Scalar.bool? text else none with
    | some b => .ok b
    | none => unwanted entry "a boolean" n
  | _ => unwanted entry "a boolean" n

/-- Reads an unsigned number of 64 bits. -/
def asCount : FieldReader Nat := fun entry n =>
  match n.kind with
  | .scalar tag text style =>
    match if readsAs "int" tag style then Scalar.nonNegative? text.toList else none with
    | some i => if i < UInt64.size then .ok i else unwanted entry "u64" n
    | none => unwanted entry "u64" n
  | _ => unwanted entry "u64" n

/-! ## entries -/

/-- A mapping that is being read: its name, where it begins, where its value is
looked for. -/
structure Mapping where
  entry : String
  mark : Mark

/-- The name of an entry of a mapping. -/
def Mapping.child (m : Mapping) (key : String) : String :=
  if m.entry = "" then key else m.entry ++ "." ++ key

/-- Reads the value of an entry. -/
def required {α : Type} (d : Document) (read : FieldReader α) (entry : String) (rest : Rest) :
    Result (α × Rest) := do
  let e ← next d rest
  let v ← read entry e.node
  return (v, e.behind e.inside)

/-- Whether a node says that there is no value; with the tag of null it has to. -/
def isAbsent (m : Mapping) (n : Node) : Result Bool :=
  match n.kind with
  | .void => .ok true
  | .scalar tag text .plain =>
    if tag = some (Scalar.coreTag "null") then
      if Scalar.isNull text then .ok true
      else misfit m.entry (.wrongValue text "null") m.mark
    else .ok (tag.isNone && (text = "" || Scalar.isNull text))
  | _ => .ok false

/-- Reads the value of an entry that may be null. -/
def optional {α : Type} (d : Document) (m : Mapping) (read : FieldReader α) (entry : String)
    (rest : Rest) : Result (Option α × Rest) := do
  let e ← next d rest
  if ← isAbsent m e.node then return (none, e.behind e.inside)
  else
    let (v, rest) ← required d read entry rest
    return (some v, rest)

/-- A key of a mapping, and the name of its entry. -/
structure Key where
  text : String
  entry : String

/-- Reads a key.  The entry of a key that is an alias has no name. -/
def readKey (d : Document) (m : Mapping) (rest : Rest) : Result (Key × Rest) := do
  let e ← next d rest
  match e.node.kind with
  | .scalar _ text _ =>
    let name := if e.after.isSome then "?" else text
    return (⟨text, m.child name⟩, e.behind e.inside)
  | _ => unwanted m.entry "field identifier" e.node

/-- Reads the entries of a mapping up to its end, each into what has been read
before; `fuel` counts the nodes left. -/
def entries {β : Type} (d : Document) (m : Mapping) (entry : β → Key → Rest → Result (β × Rest))
    (fuel : Nat) (acc : β) (rest : Rest) : Result (β × Rest) :=
  match fuel, rest with
  | 0, _ | _, [] => ranOut d
  | fuel + 1, n :: r =>
    if n.kind = .mappingEnd then .ok (acc, r)
    else do
      let (key, rest) ← readKey d m (n :: r)
      let (acc, rest) ← entry acc key rest
      entries d m entry fuel acc rest

/-- Reads a mapping.  Nothing at all, or an empty value, is a mapping without entries. -/
def mapping {β γ : Type} (d : Document) (name wanted : String) (start : β)
    (entry : Mapping → β → Key → Rest → Result (β × Rest)) (finish : Mapping → β → Result γ)
    (rest : Rest) : Result (γ × Rest) := do
  let e ← next d rest
  let m : Mapping := ⟨name, e.node.mark⟩
  let without : Result (γ × Rest) := do return (← finish m start, e.behind e.inside)
  match e.node.kind with
  | .mappingStart _ =>
    let (fields, inside) ← entries d m (entry m) (e.inside.length + 1) start e.inside
    return (← finish m fields, e.behind inside)
  | .void => without
  | .scalar _ "" .plain => without
  | _ => unwanted name wanted e.node

/-! ## the portal's settings -/

/-- The settings read so far; the inner option is a value that may be null. -/
structure Fields where
  url : Option String := none
  token : Option (Option String) := none
  tokenFrom : Option (Option String) := none
  insecure : Option (Option Bool) := none
  timeout : Option (Option Nat) := none

/-- Refuses an entry that has been read before. -/
def once {α : Type} (m : Mapping) (key : Key) (seen : Option α) : Result Unit :=
  if seen.isSome then misfit m.entry (.duplicateField key.text) m.mark else .ok ()

/-- Reads an entry of the portal's settings. -/
def portalEntry (d : Document) (m : Mapping) (f : Fields) (key : Key) (rest : Rest) :
    Result (Fields × Rest) :=
  match key.text with
  | "url" => do
    once m key f.url
    let (v, rest) ← required d asText key.entry rest
    return ({ f with url := some v }, rest)
  | "csrfToken" => do
    once m key f.token
    let (v, rest) ← optional d m asText key.entry rest
    return ({ f with token := some v }, rest)
  | "csrfTokenFrom" => do
    once m key f.tokenFrom
    let (v, rest) ← optional d m asText key.entry rest
    return ({ f with tokenFrom := some v }, rest)
  | "insecure" => do
    once m key f.insecure
    let (v, rest) ← optional d m asBool key.entry rest
    return ({ f with insecure := some v }, rest)
  | "timeoutSecs" => do
    once m key f.timeout
    let (v, rest) ← optional d m asCount key.entry rest
    return ({ f with timeout := some v }, rest)
  | _ => do return (f, ← pass d rest)

/-- The settings as they are written down; only the URL has to be there. -/
def rawSettings (m : Mapping) (f : Fields) : Result Settings.Raw :=
  match f.url with
  | none => misfit m.entry (.missingField "url") m.mark
  | some url => .ok {
      url
      token := f.token.join
      tokenFrom := f.tokenFrom.join
      insecure := f.insecure.join
      timeout := f.timeout.join }

/-! ## the file -/

/-- Reads an entry of the file. -/
def fileEntry (d : Document) (env : String → Option String) (m : Mapping)
    (found : Option Settings) (key : Key) (rest : Rest) : Result (Option Settings × Rest) :=
  match key.text with
  | "portal" => do
    once m key found
    let (raw, rest) ←
      mapping d key.entry "struct PortalRaw" {} (portalEntry d) rawSettings rest
    match Settings.resolve env raw with
    | .ok settings => return (some settings, rest)
    | .error fault => misfit m.entry (.settings fault) m.mark
  | _ => do return (found, ← pass d rest)

/-- The settings of a file. -/
def fileSettings (m : Mapping) (found : Option Settings) : Result Settings :=
  match found with
  | some settings => .ok settings
  | none => misfit m.entry (.missingField "portal") m.mark

/-- Reads a configuration file; `env` holds the environment variables. -/
def parse (env : String → Option String) (text : String) : Result Settings := do
  let d := Document.read text
  let (settings, _) ←
    mapping d "" "struct Config" none (fileEntry d env) fileSettings d.nodes
  match d.fault? with
  | some fault => throw (.yaml fault)
  | none => return settings

end AlertDesk.Config
