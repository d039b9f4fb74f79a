import AlertDesk.Yaml.Token.Scalar
import AlertDesk.Yaml.Token.Tag

/-!
# AlertDesk.Yaml.Token.Lexer

From characters to tokens.

Blocks are told by indentation: `indents` holds the columns of the blocks that
are open.  A line may turn out to begin with a key only when its colon is met;
until then the lexer remembers where the key may have begun (`PossibleKey`), and
puts the token for the key, and for the block it opens, in at that place.  A
possible key is given up when its line ends, or after 1024 characters.

`lex` stops at the first problem.  Tokens from a possible key on are not given
out before it is settled, so that a problem met meanwhile hides them.
-/

namespace AlertDesk.Yaml

/-- Where a key may have begun. -/
structure PossibleKey where
  /-- The number of tokens before it. -/
  number : Nat
  /-- Whether nothing but a key can stand there. -/
  required : Bool
  mark : Mark

/-- How far the lexer has come. -/
structure Lexer where
  cursor : Cursor
  tokens : Array Token := #[]
  /-- The number of brackets and braces that are open. -/
  flow : Nat := 0
  /-- The column of the innermost open block; -1 outside all blocks. -/
  indent : Int := -1
  indents : List Int := []
  /-- Whether a key may begin here. -/
  keyAllowed : Bool := true
  /-- The possible key of each flow level, the innermost first. -/
  keys : List (Option PossibleKey) := [none]

namespace Lexer

/-- Whether a flow collection is open. -/
def inFlow (l : Lexer) : Bool := 0 < l.flow

/-- Adds a token. -/
def add (l : Lexer) (kind : TokenKind) (start stop : Mark) : Lexer :=
  { l with tokens := l.tokens.push ⟨kind, start, stop⟩ }

/-- Adds a token that extends from the cursor to another one, where reading goes on. -/
def addTo (l : Lexer) (kind : TokenKind) (c : Cursor) : Lexer :=
  { l.add kind l.cursor.mark c.mark with cursor := c }

/-- Adds the token of an indicator of `n` characters. -/
def addMark (l : Lexer) (kind : TokenKind) (n : Nat) : Lexer := l.addTo kind (l.cursor.skip n)

/-- A problem at the cursor that has no context. -/
def misplaced {α : Type} (l : Lexer) (what : String) : Except Problem α :=
  .error { what, mark := l.cursor.mark }

/-! ## possible keys -/

/-- The problem of a required key without colon. -/
def colonMissing {α : Type} (l : Lexer) (k : PossibleKey) : Except Problem α :=
  wrong "while scanning a simple key" k.mark "could not find expected ':'" l.cursor

/-- Whether a possible key cannot be one any more. -/
def isStale (l : Lexer) (k : PossibleKey) : Bool :=
  k.mark.line < l.cursor.mark.line || k.mark.index + 1024 < l.cursor.mark.index

/-- Gives up the possible keys that cannot be keys any more. -/
def dropStale (l : Lexer) : Except Problem Lexer := do
  let keys ← l.keys.mapM fun k => match k with
    | none => .ok none
    | some k =>
      if !l.isStale k then .ok (some k)
      else if k.required then l.colonMissing k
      else .ok none
  return { l with keys }

/-- The possible key of the innermost flow level. -/
def key? (l : Lexer) : Option PossibleKey := (l.keys.head?).join

/-- Sets the possible key of the innermost flow level. -/
def setKey (l : Lexer) (k : Option PossibleKey) : Lexer := { l with keys := k :: l.keys.drop 1 }

/-- Gives up the possible key of the innermost flow level. -/
def dropKey (l : Lexer) : Except Problem Lexer :=
  match l.key? with
  | some k => if k.required then l.colonMissing k else .ok (l.setKey none)
  | none => .ok l

/-- Remembers that a key may begin here. -/
def saveKey (l : Lexer) : Except Problem Lexer :=
  if !l.keyAllowed then .ok l
  else do
    let l ← l.dropKey
    return l.setKey (some {
      number := l.tokens.size
      required := !l.inFlow && l.indent = l.cursor.mark.column
      mark := l.cursor.mark })

/-! ## indentation -/

/-- Closes the blocks that are indented deeper than a column. -/
def unroll (column : Int) : (open_ : List Int) → Lexer → Lexer
  | open_, l =>
    if l.indent ≤ column then { l with indents := open_ }
    else match open_ with
      | [] => { l.add .blockEnd l.cursor.mark l.cursor.mark with indent := -1, indents := [] }
      | outer :: rest =>
        unroll column rest { l.add .blockEnd l.cursor.mark l.cursor.mark with indent := outer }

/-- Closes the blocks that are indented deeper than a column, outside flow collections. -/
def closeBlocks (l : Lexer) (column : Int) : Lexer :=
  if l.inFlow then l else unroll column l.indents l

/-- Opens a block at a column if it is deeper than the innermost one; its token
goes to the given place. -/
def openBlock (l : Lexer) (column : Nat) (place : Nat) (kind : TokenKind) (mark : Mark) : Lexer :=
  if l.inFlow ∨ (column : Int) ≤ l.indent then l
  else { l with
    indents := l.indent :: l.indents
    indent := column
    tokens := l.tokens.insertIdx! place ⟨kind, mark, mark⟩ }

/-- Opens a block at the cursor. -/
def openHere (l : Lexer) (kind : TokenKind) : Lexer :=
  l.openBlock l.cursor.mark.column l.tokens.size kind l.cursor.mark

/-! ## tokens -/

/-- The end of the text counts as the beginning of a line. -/
def addEnd (l : Lexer) : Except Problem Lexer := do
  let m := l.cursor.mark
  let mark := if m.column = 0 then m else { m with line := m.line + 1, column := 0 }
  let l := { l with cursor := { l.cursor with mark } }.closeBlocks (-1)
  let l ← l.dropKey
  return { l with keyAllowed := false }.add .streamEnd mark mark

/-- A directive. -/
def addDirective (l : Lexer) : Except Problem Lexer := do
  let l ← (l.closeBlocks (-1)).dropKey
  let start := l.cursor.mark
  let ((kind, stop), c) ← readDirective l.cursor
  return { l.add kind start stop with keyAllowed := false, cursor := c }

/-- The mark at the beginning or the end of a document. -/
def addDocumentMark (l : Lexer) (kind : TokenKind) : Except Problem Lexer := do
  let l ← (l.closeBlocks (-1)).dropKey
  return { l with keyAllowed := false }.addMark kind 3

/-- An opening bracket or brace, which may itself begin a key. -/
def openFlow (l : Lexer) (kind : TokenKind) : Except Problem Lexer := do
  let l ← l.saveKey
  return { l with keys := none :: l.keys, flow := l.flow + 1, keyAllowed := true }.addMark kind 1

/-- A closing bracket or brace. -/
def closeFlow (l : Lexer) (kind : TokenKind) : Except Problem Lexer := do
  let l ← l.dropKey
  let l := if l.inFlow then { l with keys := l.keys.drop 1, flow := l.flow - 1 } else l
  return { l with keyAllowed := false }.addMark kind 1

/-- A comma. -/
def addFlowEntry (l : Lexer) : Except Problem Lexer := do
  let l ← l.dropKey
  return { l with keyAllowed := true }.addMark .flowEntry 1

/-- A hyphen before a sequence entry. -/
def addBlockEntry (l : Lexer) : Except Problem Lexer := do
  if !l.inFlow ∧ !l.keyAllowed then
    l.misplaced "block sequence entries are not allowed in this context"
  else
    let l ← (l.openHere .blockSequenceStart).dropKey
    return { l with keyAllowed := true }.addMark .blockEntry 1

/-- A question mark before a key. -/
def addKey (l : Lexer) : Except Problem Lexer := do
  if !l.inFlow ∧ !l.keyAllowed then
    l.misplaced "mapping keys are not allowed in this context"
  else
    let l ← (l.openHere .blockMappingStart).dropKey
    return { l with keyAllowed := !l.inFlow }.addMark .key 1

/-- A colon: what was a possible key now is one. -/
def addValue (l : Lexer) : Except Problem Lexer :=
  match l.key? with
  | some k =>
    let l := { l with tokens := l.tokens.insertIdx! k.number ⟨.key, k.mark, k.mark⟩ }
    let l := l.openBlock k.mark.column k.number .blockMappingStart k.mark
    .ok ({ l.setKey none with keyAllowed := false }.addMark .value 1)
  | none =>
    if !l.inFlow ∧ !l.keyAllowed then
      l.misplaced "mapping values are not allowed in this context"
    else
      let l := l.openHere .blockMappingStart
      .ok ({ l with keyAllowed := !l.inFlow }.addMark .value 1)

/-- An anchor, an alias or a tag. -/
def addProperty (l : Lexer) (read : Reader TokenKind) : Except Problem Lexer := do
  let l ← l.saveKey
  let (kind, c) ← read l.cursor
  return { l with keyAllowed := false }.addTo kind c

/-- A block scalar. -/
def addBlockScalar (l : Lexer) (isLiteral : Bool) : Except Problem Lexer := do
  let l ← l.dropKey
  let start := l.cursor.mark
  let ((text, stop), c) ← readBlock isLiteral l.indent l.cursor
  let style := if isLiteral then Style.literal else .folded
  return { l.add (.scalar (String.ofList text) style) start stop with
    keyAllowed := true, cursor := c }

/-- A quoted scalar. -/
def addQuoted (l : Lexer) (single : Bool) : Except Problem Lexer := do
  let l ← l.saveKey
  let (text, c) ← readQuoted single l.cursor
  return { l with keyAllowed := false }.addTo (.scalar (String.ofList text) .quoted) c

/-- A plain scalar; behind a line break a key may begin. -/
def addPlain (l : Lexer) : Except Problem Lexer := do
  let l ← l.saveKey
  let start := l.cursor.mark
  let (p, c) ← readPlain l.inFlow l.indent l.cursor
  return { l.add (.scalar (String.ofList p.text) .plain) start p.stop with
    keyAllowed := p.broken, cursor := c }

/-- Passes over blanks, comments and line breaks.  Tabs count as blanks only
where no key can begin.  Behind a line break one may. -/
def skipGaps (fuel : Nat) (l : Lexer) : Lexer :=
  match fuel with
  | 0 => l
  | fuel + 1 =>
    let c := l.cursor
    let c := if c.mark.index = 0 ∧ c.is '\uFEFF' then c.skip 1 else c
    let tabs := l.inFlow || !l.keyAllowed
    let c := (c.skipWhile fun x => x = ' ' || (tabs && x = '\t')).skipComment
    if c.next isBreak then
      skipGaps fuel { l with cursor := c.skipBreak, keyAllowed := l.keyAllowed || !l.inFlow }
    else { l with cursor := c }

/-- Characters that begin no plain scalar. -/
def isIndicator (x : Char) : Bool := "-?:,[]\x7b\x7d#&*!|>'\"%@`".toList.contains x

/-- Whether a plain scalar begins here. -/
def beginsPlain (l : Lexer) (x : Char) : Bool :=
  let c := l.cursor
  (!isIndicator x && !isBlank x) || (x = '-' && !(c.at? 1).any isBlank) ||
    (!l.inFlow && (x = '?' || x = ':') && !c.gapAt 1)

/-- Reads the token that begins with a character. -/
def begin (l : Lexer) (x : Char) : Except Problem Lexer :=
  let c := l.cursor
  if c.mark.column = 0 ∧ x = '%' then l.addDirective
  else if c.atDocumentMark then
    l.addDocumentMark (if x = '-' then .documentStart else .documentEnd)
  else if x = '[' then l.openFlow .flowSequenceStart
  else if x = '{' then l.openFlow .flowMappingStart
  else if x = ']' then l.closeFlow .flowSequenceEnd
  else if x = '}' then l.closeFlow .flowMappingEnd
  else if x = ',' then l.addFlowEntry
  else if x = '-' ∧ c.gapAt 1 then l.addBlockEntry
  else if x = '?' ∧ (l.inFlow ∨ c.gapAt 1) then l.addKey
  else if x = ':' ∧ (l.inFlow ∨ c.gapAt 1) then l.addValue
  else if x = '*' then l.addProperty (readAnchor true)
  else if x = '&' then l.addProperty (readAnchor false)
  else if x = '!' then l.addProperty (readTag l.inFlow)
  else if x = '|' ∧ !l.inFlow then l.addBlockScalar true
  else if x = '>' ∧ !l.inFlow then l.addBlockScalar false
  else if x = '\'' then l.addQuoted true
  else if x = '"' then l.addQuoted false
  else if l.beginsPlain x then l.addPlain
  else
    wrong "while scanning for the next token" c.mark
      "found character that cannot start any token" c

/-- Reads the next token. -/
def next (l : Lexer) : Except Problem Lexer := do
  let l ← (l.skipGaps l.cursor.fuel).dropStale
  let l := l.closeBlocks l.cursor.mark.column
  match l.cursor.next? with
  | none => l.addEnd
  | some x => l.begin x

/-- How many tokens are settled: those before the first possible key. -/
def settled (l : Lexer) : Nat :=
  l.keys.foldl (fun n k => match k with
    | some k => if l.isStale k ∧ !k.required then n else min n k.number
    | none => n) l.tokens.size

/-- Reads tokens up to the end of the text or the first problem. -/
def run (fuel : Nat) (l : Lexer) : List Token × Option Problem :=
  match fuel with
  | 0 => (l.tokens.toList, none)
  | fuel + 1 => match l.next with
    | .error p => (l.tokens.toList.take l.settled, some p)
    | .ok l =>
      if l.tokens.back?.any (·.kind = .streamEnd) then (l.tokens.toList, none) else run fuel l

end Lexer

/-- The tokens of a text, and the problem that they end with. -/
def lex (cs : List Char) : List Token × Option Problem :=
  ({ cursor := ⟨cs, {}⟩ } : Lexer).run (cs.length + 2)

end AlertDesk.Yaml
