import AlertDesk.Yaml.Cursor

/-!
# AlertDesk.Yaml.Token.Scalar

The four ways to write a scalar.

Lines are folded alike in plain, quoted and folded scalars: a single break is a
blank, and of more breaks the first is dropped (`fold`).  A break that is one of
the separators of Unicode is kept.
-/

namespace AlertDesk.Yaml

/-- What a break and the breaks that follow it are folded to. -/
def fold (first more : List Char) : List Char :=
  if first.head? = some '\n' then (if more.isEmpty then [' '] else more) else first ++ more

/-- Blanks and breaks between two words of a scalar.  `broken` says that the
blanks hold a break, which then stands in `first`, with further breaks in `more`. -/
structure Gap where
  blanks : List Char := []
  broken : Bool := false
  first : List Char := []
  more : List Char := []

namespace Gap

/-- What the gap stands for in the text. -/
def text (g : Gap) : List Char := if g.broken then fold g.first g.more else g.blanks

/-- Takes a blank in. -/
def blank (g : Gap) (x : Char) : Gap := if g.broken then g else { g with blanks := g.blanks ++ [x] }

/-- Takes a break in. -/
def lineBreak (g : Gap) (b : List Char) : Gap :=
  if g.broken then { g with more := g.more ++ b } else { g with broken := true, first := b }

end Gap

/-! ## quoted scalars -/

/-- What a letter behind a backslash stands for. -/
def simpleEscape? (x : Char) : Option Char :=
  match x with
  | '0' => some '\x00'
  | 'a' => some '\x07'
  | 'b' => some '\x08'
  | 't' | '\t' => some '\t'
  | 'n' => some '\n'
  | 'v' => some '\x0b'
  | 'f' => some '\x0c'
  | 'r' => some '\r'
  | 'e' => some '\x1b'
  | ' ' => some ' '
  | '"' => some '"'
  | '/' => some '/'
  | '\\' => some '\\'
  | 'N' => some '\u0085'
  | '_' => some '\u00a0'
  | 'L' => some '\u2028'
  | 'P' => some '\u2029'
  | _ => none

/-- How many hexadecimal digits follow a letter behind a backslash. -/
def escapeDigits? (x : Char) : Option Nat :=
  match x with
  | 'x' => some 2
  | 'u' => some 4
  | 'U' => some 8
  | _ => none

/-- Reads an escape that begins with a backslash. -/
def readEscape (start : Mark) : Reader Char := fun c =>
  let wrong {α : Type} := wrong (α := α) "while parsing a quoted scalar" start
  match c.at? 1 with
  | none => wrong "found unknown escape character" c
  | some x => match simpleEscape? x, escapeDigits? x with
    | some y, _ => .ok (y, c.skip 2)
    | none, none => wrong "found unknown escape character" c
    | none, some n =>
      let c := c.skip 2
      let digits := c.rest.take n
      match digits.mapM hexValue? with
      | none => wrong "did not find expected hexdecimal number" c
      | some values =>
        let code := values.foldl (fun n d => n * 16 + d) 0
        if values.length < n then wrong "did not find expected hexdecimal number" c
        else if (0xD800 ≤ code ∧ code ≤ 0xDFFF) ∨ 0x10FFFF < code then
          wrong "found invalid Unicode character escape code" c
        else .ok (Char.ofNat code, c.skip n)

/-- The quote that ends a scalar. -/
def quoteOf (single : Bool) : Char := if single then '\'' else '"'

/-- Reads characters up to a gap or the closing quote.  The flag of the result
says that an escaped line break came last. -/
def quotedWord (single : Bool) (start : Mark) (fuel : Nat) (acc : List Char) :
    Reader (List Char × Bool) := fun c =>
  match fuel, c.next? with
  | 0, _ | _, none => .ok ((acc, false), c)
  | fuel + 1, some x =>
    if isBlank x ∨ isBreak x then .ok ((acc, false), c)
    else if single ∧ x = '\'' ∧ c.at? 1 = some '\'' then
      quotedWord single start fuel (acc ++ ['\'']) (c.skip 2)
    else if x = quoteOf single then .ok ((acc, false), c)
    else if !single ∧ x = '\\' then
      if (c.at? 1).any isBreak then .ok ((acc, true), (c.skip 1).skipBreak)
      else do
        let (y, c) ← readEscape start c
        quotedWord single start fuel (acc ++ [y]) c
    else quotedWord single start fuel (acc ++ [x]) (c.skip 1)

/-- Reads the blanks and breaks between two words of a quoted scalar. -/
def quotedGap (fuel : Nat) (g : Gap) (c : Cursor) : Gap × Cursor :=
  match fuel, c.next? with
  | 0, _ | _, none => (g, c)
  | fuel + 1, some x =>
    if isBlank x then quotedGap fuel (g.blank x) (c.skip 1)
    else if isBreak x then
      let (b, c) := c.takeBreak
      quotedGap fuel (g.lineBreak b) c
    else (g, c)

/-- Reads the words of a quoted scalar, and its closing quote. -/
def quotedWords (single : Bool) (start : Mark) (fuel : Nat) (acc : List Char) :
    Reader (List Char) := fun c =>
  let reading := "while scanning a quoted scalar"
  match fuel with
  | 0 => wrong reading start "found unexpected end of stream" c
  | fuel + 1 =>
    if c.atDocumentMark then wrong reading start "found unexpected document indicator" c
    else if c.atEnd then wrong reading start "found unexpected end of stream" c
    else do
      let ((word, broken), c) ← quotedWord single start c.fuel [] c
      if c.is (quoteOf single) then return (acc ++ word, c.skip 1)
      let (gap, c) := quotedGap c.fuel { broken } c
      quotedWords single start fuel (acc ++ word ++ gap.text) c

/-- Reads a quoted scalar. -/
def readQuoted (single : Bool) : Reader (List Char) := fun c =>
  quotedWords single c.mark c.fuel [] (c.skip 1)

/-! ## plain scalars -/

/-- Brackets, braces and commas. -/
def isFlowMark (x : Char) : Bool := x = ',' || x = '[' || x = ']' || x = '{' || x = '}'

/-- Reads characters up to a gap or what ends the scalar. -/
def plainWord (inFlow : Bool) (start : Mark) (fuel : Nat) (acc : List Char) :
    Reader (List Char) := fun c =>
  match fuel, c.next? with
  | 0, _ | _, none => .ok (acc, c)
  | fuel + 1, some x =>
    if isBlank x ∨ isBreak x then .ok (acc, c)
    else if inFlow ∧ x = ':' ∧ (c.at? 1).any (fun y => isFlowMark y || y = '?') then
      wrong "while scanning a plain scalar" start "found unexpected ':'" c
    else if (x = ':' ∧ c.gapAt 1) ∨ (inFlow ∧ isFlowMark x) then .ok (acc, c)
    else plainWord inFlow start fuel (acc ++ [x]) (c.skip 1)

/-- Reads the blanks and breaks behind a word of a plain scalar. -/
def plainGap (start : Mark) (indent : Int) (fuel : Nat) (g : Gap) : Reader Gap := fun c =>
  match fuel, c.next? with
  | 0, _ | _, none => .ok (g, c)
  | fuel + 1, some x =>
    if isBlank x then
      if g.broken ∧ c.mark.column < indent ∧ x = '\t' then
        wrong "while scanning a plain scalar" start
          "found a tab character that violates indentation" c
      else plainGap start indent fuel (g.blank x) (c.skip 1)
    else if isBreak x then
      let (b, c) := c.takeBreak
      plainGap start indent fuel (g.lineBreak b) c
    else .ok (g, c)

/-- A plain scalar: its text, where it ends, and whether a line break follows it. -/
structure Plain where
  text : List Char := []
  stop : Mark
  broken : Bool := false

/-- Reads the words of a plain scalar; `gap` is what stands before the next one. -/
def plainWords (inFlow : Bool) (start : Mark) (indent : Int) (fuel : Nat) (acc : Plain)
    (gap : Gap) : Reader Plain := fun c =>
  match fuel with
  | 0 => .ok ({ acc with broken := gap.broken }, c)
  | fuel + 1 =>
    if c.atDocumentMark ∨ c.is '#' then .ok ({ acc with broken := gap.broken }, c)
    else do
      let (word, c) ← plainWord inFlow start c.fuel [] c
      let (acc, gap) :=
        if word.isEmpty then (acc, gap)
        else ({ acc with text := acc.text ++ gap.text ++ word, stop := c.mark }, ({} : Gap))
      if !c.next (fun x => isBlank x || isBreak x) then
        return ({ acc with broken := gap.broken }, c)
      let (gap, c) ← plainGap start indent c.fuel gap c
      if !inFlow ∧ c.mark.column < indent then return ({ acc with broken := gap.broken }, c)
      plainWords inFlow start indent fuel acc gap c

/-- Reads a plain scalar.  A line that is not indented deeper than `parent` ends it. -/
def readPlain (inFlow : Bool) (parent : Int) : Reader Plain := fun c =>
  plainWords inFlow c.mark (parent + 1) c.fuel { stop := c.mark } {} c

/-! ## block scalars -/

/-- What happens to the breaks at the end of a block scalar. -/
inductive Chomp where
  | strip
  | clip
  | keep
  deriving DecidableEq

/-- The indentation and chomping marks of a block scalar; indentation 0 is to be found out. -/
structure BlockHeader where
  chomp : Chomp := .clip
  increment : Nat := 0

/-- What is being read. -/
def readingBlock : String := "while scanning a block scalar"

/-- Reads an indentation mark, if there is one. -/
def readIncrement (start : Mark) (h : BlockHeader) : Reader BlockHeader := fun c =>
  match c.next? with
  | none => .ok (h, c)
  | some x =>
    if !x.isDigit then .ok (h, c)
    else if x = '0' then wrong readingBlock start "found an indentation indicator equal to 0" c
    else .ok ({ h with increment := x.toNat - '0'.toNat }, c.skip 1)

/-- Reads a chomping mark, if there is one. -/
def readChomp (h : BlockHeader) (c : Cursor) : BlockHeader × Cursor :=
  if c.is '+' then ({ h with chomp := .keep }, c.skip 1)
  else if c.is '-' then ({ h with chomp := .strip }, c.skip 1)
  else (h, c)

/-- Reads the marks behind `|` or `>`, in either order. -/
def readBlockHeader (start : Mark) : Reader BlockHeader := fun c =>
  if c.is '+' ∨ c.is '-' then
    let (h, c) := readChomp {} c
    readIncrement start h c
  else do
    let (h, c) ← readIncrement start {} c
    return if h.increment = 0 then (h, c) else readChomp h c

/-- The empty lines before a line of a block scalar: their breaks, the deepest
indentation met, where the last of them ends. -/
structure Empties where
  breaks : List Char := []
  deepest : Nat := 0
  stop : Mark

/-- Reads the empty lines before a line of a block scalar and its indentation; an
`indent` of 0 is not known yet. -/
def readEmpties (start : Mark) (indent : Nat) (fuel : Nat) (e : Empties) : Reader Empties :=
  fun c =>
  match fuel with
  | 0 => .ok (e, c)
  | fuel + 1 =>
    let wanted := if indent = 0 then c.rest.length else indent - c.mark.column
    let c := c.skip ((c.rest.take wanted).takeWhile (· = ' ')).length
    let e := { e with deepest := max e.deepest c.mark.column }
    if (indent = 0 ∨ c.mark.column < indent) ∧ c.is '\t' then
      wrong readingBlock start
        "found a tab character where an indentation space is expected" c
    else if c.next isBreak then
      let (b, c) := c.takeBreak
      readEmpties start indent fuel { e with breaks := e.breaks ++ b, stop := c.mark } c
    else .ok (e, c)

/-- A block scalar as far as it has been read: the break that ended its last
line, and whether that line began with a blank. -/
structure BlockText where
  text : List Char := []
  ending : List Char := []
  blankLine : Bool := false

/-- Reads the lines of a block scalar; `e` holds the empty lines before the next one. -/
def readBlockLines (isLiteral : Bool) (start : Mark) (indent : Nat) (fuel : Nat) (t : BlockText)
    (e : Empties) : Reader (BlockText × Empties) := fun c =>
  match fuel with
  | 0 => .ok ((t, e), c)
  | fuel + 1 =>
    if c.mark.column ≠ indent ∨ c.atEnd then .ok ((t, e), c)
    else do
      let blank := c.next isBlank
      let joins := !isLiteral && t.ending.head? = some '\n' && !t.blankLine && !blank
      let ending := if joins then (if e.breaks.isEmpty then [' '] else []) else t.ending
      let (line, c) := c.takeWhile (!isBreak ·)
      let (b, c) := c.takeBreak
      let t := { text := t.text ++ ending ++ e.breaks ++ line, ending := b, blankLine := blank }
      let (e, c) ← readEmpties start indent c.fuel { stop := c.mark } c
      readBlockLines isLiteral start indent fuel t e c

/-- Reads a block scalar; returns its text and where it ends.  Its lines are
indented deeper than `parent`. -/
def readBlock (isLiteral : Bool) (parent : Int) : Reader (List Char × Mark) := fun c => do
  let start := c.mark
  let (h, c) ← readBlockHeader start (c.skip 1)
  let c := c.skipBlanks.skipComment
  if !c.endsLine then wrong readingBlock start "did not find expected comment or line break" c
  else
    let c := c.skipBreak
    let base := parent.toNat
    let indent := if h.increment = 0 then 0 else base + h.increment
    let (e, c) ← readEmpties start indent c.fuel { stop := c.mark } c
    let indent := if indent = 0 then max (max e.deepest (parent + 1).toNat) 1 else indent
    let ((t, e), c) ← readBlockLines isLiteral start indent c.fuel {} e c
    let tail := match h.chomp with
      | .strip => []
      | .clip => t.ending
      | .keep => t.ending ++ e.breaks
    return ((t.text ++ tail, e.stop), c)

end AlertDesk.Yaml
