import AlertDesk.Yaml.Token.Lexer

/-!
# AlertDesk.Yaml.Event

From tokens to events: nodes begin and end, and documents begin and end.

The grammar is followed by a stack of what is to be read next (`Pending`).
`step` takes the top of the stack, looks at the next token, and gives one event;
what a collection still wants is put back on the stack.  A node that is left out
is an empty plain scalar.

`events` stops at the first problem, which is one of the grammar or, when the
tokens run out, the one that the tokens end with.
-/

namespace AlertDesk.Yaml

/-- What an event is. -/
inductive EventKind where
  | streamEnd
  | documentStart
  | documentEnd
  | alias (name : String)
  | scalar (anchor tag : Option String) (text : String) (style : Style)
  | sequenceStart (anchor tag : Option String)
  | sequenceEnd
  | mappingStart (anchor tag : Option String)
  | mappingEnd
  deriving DecidableEq

/-- An event and where it begins. -/
structure Event where
  kind : EventKind
  mark : Mark
  deriving DecidableEq

/-- What is to be read next.  Collections carry the place where they began. -/
inductive Pending where
  /-- A document; the first one needs no mark at its beginning. -/
  | document (first : Bool)
  | content
  | documentEnd
  | blockEntry (start : Mark)
  | indentlessEntry
  | blockKey (start : Mark)
  | blockValue
  | flowEntry (start : Mark) (first : Bool)
  | pairKey
  | pairValue
  | pairEnd
  | flowKey (start : Mark) (first : Bool)
  | flowValue (isEmpty : Bool)
  | node (block indentless : Bool)

/-- What is known while tokens are read. -/
structure Grammar where
  tokens : List Token
  /-- What stands next on the stack first. -/
  stack : List Pending
  /-- The meanings of tag handles. -/
  handles : List (String × String) := []

/-- An event and what is to be read behind it. -/
abbrev Step := Except (Option Problem) (Event × Grammar)

namespace Grammar

/-- The next token; without one, reading stops. -/
def peek (g : Grammar) : Except (Option Problem) Token :=
  match g.tokens with
  | [] => .error none
  | t :: _ => .ok t

/-- Passes over a token. -/
def skip (g : Grammar) : Grammar := { g with tokens := g.tokens.drop 1 }

/-- Puts something on the stack. -/
def push (g : Grammar) (p : Pending) : Grammar := { g with stack := p :: g.stack }

/-- A problem at a token, in something that began earlier. -/
def refuse {α : Type} (reading : String) (start : Mark) (what : String) (t : Token) :
    Except (Option Problem) α :=
  .error (some { what, mark := t.start, context := some ⟨reading, start⟩ })

/-- A problem at a token. -/
def refuseHere {α : Type} (what : String) (t : Token) : Except (Option Problem) α :=
  .error (some { what, mark := t.start })

/-- An event. -/
def emit (g : Grammar) (kind : EventKind) (mark : Mark) : Step := .ok (⟨kind, mark⟩, g)

/-- A node that is left out. -/
def empty (g : Grammar) (mark : Mark) : Step := g.emit (.scalar none none "" .plain) mark

/-! ## documents -/

/-- The tag handles that need no directive. -/
def defaultHandles : List (String × String) := [("!", "!"), ("!!", "tag:yaml.org,2002:")]

/-- Reads directives; `versioned` says that a version has been given. -/
def directives (versioned : Bool) (handles : List (String × String)) :
    List Token → Except (Option Problem) (List (String × String) × List Token)
  | t :: r => match t.kind with
    | .version major minor =>
      if versioned then refuseHere "found duplicate %YAML directive" t
      else if major ≠ 1 ∨ (minor ≠ 1 ∧ minor ≠ 2) then
        refuseHere "found incompatible YAML document" t
      else directives true handles r
    | .handle name meaning =>
      if handles.any (·.1 = name) then refuseHere "found duplicate %TAG directive" t
      else directives versioned (handles ++ [(name, meaning)]) r
    | _ => .ok (handles, t :: r)
  | [] => .ok (handles, [])

/-- Whether a token is a directive. -/
def isDirective (t : Token) : Bool :=
  match t.kind with
  | .version .. | .handle .. => true
  | _ => false

/-- The beginning of a document, or the end of the text. -/
def readDocument (g : Grammar) (first : Bool) : Step := do
  let g := if first then g else { g with tokens := g.tokens.dropWhile (·.kind = .documentEnd) }
  let t ← g.peek
  if t.kind = .streamEnd then g.skip.emit .streamEnd t.start
  else if first ∧ !isDirective t ∧ t.kind ≠ .documentStart then
    let g := { g with handles := defaultHandles }
    ((g.push .documentEnd).push (.node true false)).emit .documentStart t.start
  else
    let (handles, rest) ← directives false [] g.tokens
    let g := { g with tokens := rest, handles := handles ++ defaultHandles }
    let d ← g.peek
    if d.kind ≠ .documentStart then refuseHere "did not find expected <document start>" d
    else ((g.skip.push .documentEnd).push .content).emit .documentStart t.start

/-- The end of a document. -/
def readDocumentEnd (g : Grammar) : Step := do
  let t ← g.peek
  let g := if t.kind = .documentEnd then g.skip else g
  (g.push (.document false)).emit .documentEnd t.start

/-! ## nodes -/

/-- Anchor and tag of a node. -/
structure Properties where
  anchor : Option String := none
  tag : Option (String × String × Mark) := none
  start : Option Mark := none

/-- Takes anchor and tag from the tokens, in either order, each at most once. -/
def properties (fuel : Nat) (p : Properties) (tokens : List Token) : Properties × List Token :=
  match fuel, tokens with
  | fuel + 1, t :: r => match t.kind, p.anchor, p.tag with
    | .anchor name, none, _ =>
      properties fuel { p with anchor := some name, start := p.start.or (some t.start) } r
    | .tag handle rest, _, none =>
      properties fuel
        { p with tag := some (handle, rest, t.start), start := p.start.or (some t.start) } r
    | _, _, _ => (p, tokens)
  | _, _ => (p, tokens)

/-- The tag that a handle and a rest stand for. -/
def resolveTag (g : Grammar) (start : Mark) (p : Properties) :
    Except (Option Problem) (Option String) :=
  match p.tag with
  | none => .ok none
  | some (handle, rest, mark) =>
    if handle = "" then .ok (some rest)
    else match g.handles.find? (·.1 = handle) with
      | some (_, meaning) => .ok (some (meaning ++ rest))
      | none => .error (some {
          what := "found undefined tag handle", mark
          context := some ⟨"while parsing a node", start⟩ })

/-- A node. -/
def readNode (g : Grammar) (block indentless : Bool) : Step := do
  let first ← g.peek
  if let .alias name := first.kind then return ← g.skip.emit (.alias name) first.start
  let (p, rest) := properties 2 {} g.tokens
  let g := { g with tokens := rest }
  let t ← g.peek
  let start := p.start.getD t.start
  let tag ← g.resolveTag start p
  let sequence (g : Grammar) : Step := g.emit (.sequenceStart p.anchor tag) start
  let mapping (g : Grammar) : Step := g.emit (.mappingStart p.anchor tag) start
  match t.kind with
  | .scalar text style =>
    let tag := if tag = some "!" then none else tag
    g.skip.emit (.scalar p.anchor tag text style) start
  | .flowSequenceStart => sequence (g.skip.push (.flowEntry t.start true))
  | .flowMappingStart => mapping (g.skip.push (.flowKey t.start true))
  | kind =>
    if indentless ∧ kind = .blockEntry then sequence (g.push .indentlessEntry)
    else if block ∧ kind = .blockSequenceStart then sequence (g.skip.push (.blockEntry t.start))
    else if block ∧ kind = .blockMappingStart then mapping (g.skip.push (.blockKey t.start))
    else if p.anchor.isSome ∨ tag.isSome then g.emit (.scalar p.anchor tag "" .plain) start
    else
      refuse (if block then "while parsing a block node" else "while parsing a flow node") start
        "did not find expected node content" t

/-- What follows the mark at the beginning of a document. -/
def readContent (g : Grammar) : Step := do
  let t ← g.peek
  if isDirective t ∨ t.kind = .documentStart ∨ t.kind = .documentEnd ∨ t.kind = .streamEnd then
    g.empty t.start
  else g.readNode true false

/-- Reads a node, unless the next token is one of those that end its place; then it
is left out, at the given mark. -/
def nodeUnless (g : Grammar) (ends : List TokenKind) (mark : Mark) (block indentless : Bool) :
    Step := do
  let t ← g.peek
  if ends.contains t.kind then g.empty mark else g.readNode block indentless

/-! ## block collections -/

/-- An entry of a block sequence, or its end. -/
def readBlockEntry (g : Grammar) (start : Mark) : Step := do
  let t ← g.peek
  match t.kind with
  | .blockEntry =>
    (g.skip.push (.blockEntry start)).nodeUnless [.blockEntry, .blockEnd] t.stop true false
  | .blockEnd => g.skip.emit .sequenceEnd t.start
  | _ => refuse "while parsing a block collection" start "did not find expected '-' indicator" t

/-- An entry of a sequence at the indentation of the mapping around it, or its end. -/
def readIndentlessEntry (g : Grammar) : Step := do
  let t ← g.peek
  match t.kind with
  | .blockEntry =>
    (g.skip.push .indentlessEntry).nodeUnless [.blockEntry, .key, .value, .blockEnd] t.stop
      true false
  | _ => g.emit .sequenceEnd t.start

/-- A key of a block mapping, or its end. -/
def readBlockKey (g : Grammar) (start : Mark) : Step := do
  let t ← g.peek
  match t.kind with
  | .key =>
    ((g.skip.push (.blockKey start)).push .blockValue).nodeUnless [.key, .value, .blockEnd] t.stop
      true true
  | .blockEnd => g.skip.emit .mappingEnd t.start
  | _ => refuse "while parsing a block mapping" start "did not find expected key" t

/-- A value of a block mapping. -/
def readBlockValue (g : Grammar) : Step := do
  let t ← g.peek
  match t.kind with
  | .value => g.skip.nodeUnless [.key, .value, .blockEnd] t.stop true true
  | _ => g.empty t.start

/-! ## flow collections -/

/-- Passes over the comma before an entry that is not the first. -/
def skipComma (g : Grammar) (first : Bool) (reading : String) (start : Mark) (what : String) :
    Except (Option Problem) Grammar := do
  let t ← g.peek
  if first then return g
  else if t.kind = .flowEntry then return g.skip
  else refuse reading start what t

/-- An entry of a flow sequence, or its end.  A key makes the entry a mapping of one pair. -/
def readFlowEntry (g : Grammar) (start : Mark) (first : Bool) : Step := do
  let t ← g.peek
  if t.kind = .flowSequenceEnd then g.skip.emit .sequenceEnd t.start
  else
    let g ← g.skipComma first "while parsing a flow sequence" start
      "did not find expected ',' or ']'"
    let t ← g.peek
    match t.kind with
    | .key =>
      ((g.skip.push (.flowEntry start false)).push .pairKey).emit (.mappingStart none none) t.start
    | .flowSequenceEnd => g.skip.emit .sequenceEnd t.start
    | _ => (g.push (.flowEntry start false)).readNode false false

/-- The key of a mapping of one pair. -/
def readPairKey (g : Grammar) : Step := do
  let t ← g.peek
  let g := g.push .pairValue
  if [TokenKind.value, .flowEntry, .flowSequenceEnd].contains t.kind then g.skip.empty t.stop
  else g.readNode false false

/-- The value of a mapping of one pair. -/
def readPairValue (g : Grammar) : Step := do
  let t ← g.peek
  let g := g.push .pairEnd
  match t.kind with
  | .value => do
    let n ← g.skip.peek
    g.skip.nodeUnless [.flowEntry, .flowSequenceEnd] n.start false false
  | _ => g.empty t.start

/-- A key of a flow mapping, or its end. -/
def readFlowKey (g : Grammar) (start : Mark) (first : Bool) : Step := do
  let t ← g.peek
  if t.kind = .flowMappingEnd then g.skip.emit .mappingEnd t.start
  else
    let g ← g.skipComma first "while parsing a flow mapping" start
      "did not find expected ',' or '\x7d'"
    let t ← g.peek
    match t.kind with
    | .key => do
      let n ← g.skip.peek
      ((g.skip.push (.flowKey start false)).push (.flowValue false)).nodeUnless
        [.value, .flowEntry, .flowMappingEnd] n.start false false
    | .flowMappingEnd => g.skip.emit .mappingEnd t.start
    | _ => ((g.push (.flowKey start false)).push (.flowValue true)).readNode false false

/-- A value of a flow mapping; `isEmpty` says that it is left out. -/
def readFlowValue (g : Grammar) (isEmpty : Bool) : Step := do
  let t ← g.peek
  if isEmpty ∨ t.kind ≠ .value then g.empty t.start
  else
    let n ← g.skip.peek
    g.skip.nodeUnless [.flowEntry, .flowMappingEnd] n.start false false

/-! ## all events -/

/-- Reads what stands on top of the stack. -/
def step (g : Grammar) : Step :=
  match g.stack with
  | [] => .error none
  | p :: stack =>
    let g := { g with stack }
    match p with
    | .document first => g.readDocument first
    | .content => g.readContent
    | .documentEnd => g.readDocumentEnd
    | .blockEntry start => g.readBlockEntry start
    | .indentlessEntry => g.readIndentlessEntry
    | .blockKey start => g.readBlockKey start
    | .blockValue => g.readBlockValue
    | .flowEntry start first => g.readFlowEntry start first
    | .pairKey => g.readPairKey
    | .pairValue => g.readPairValue
    | .pairEnd => do
      let t ← g.peek
      g.emit .mappingEnd t.start
    | .flowKey start first => g.readFlowKey start first
    | .flowValue isEmpty => g.readFlowValue isEmpty
    | .node block indentless => g.readNode block indentless

/-- Reads events up to the end of the text or the first problem. -/
def run (fuel : Nat) (g : Grammar) : List Event × Option (Option Problem) :=
  match fuel with
  | 0 => ([], none)
  | fuel + 1 => match g.step with
    | .error p => ([], some p)
    | .ok (e, g) =>
      if e.kind = .streamEnd then ([e], none)
      else
        let (es, p) := run fuel g
        (e :: es, p)

end Grammar

/-- The events of a text, and the problem that they end with. -/
def events (cs : List Char) : List Event × Option Problem :=
  let (tokens, problem) := lex cs
  let (es, stop) := ({ tokens, stack := [.document true] } : Grammar).run (8 * tokens.length + 8)
  (es, stop.bind fun p => p.or problem)

end AlertDesk.Yaml
