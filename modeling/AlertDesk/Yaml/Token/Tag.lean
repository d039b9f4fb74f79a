import AlertDesk.Text.Utf8
import AlertDesk.Yaml.Token
import AlertDesk.Yaml.Cursor

/-!
# AlertDesk.Yaml.Token.Tag

Anchors, aliases, tags and directives.

A tag is a handle, such as `!` or `!!`, and a rest in which bytes may be
percent-encoded; a tag in angle brackets has no handle.
-/

namespace AlertDesk.Yaml

/-! ## anchors -/

/-- Characters that may stand right behind an anchor. -/
def endsAnchor (c : Cursor) : Bool :=
  c.gapAt 0 || c.next fun x => "?:,]\x7d%@`".toList.contains x

/-- Reads an anchor or an alias. -/
def readAnchor (isAlias : Bool) : Reader TokenKind := fun c =>
  let start := c.mark
  let (name, c) := (c.skip 1).takeWhile isWordChar
  if name.isEmpty ∨ !endsAnchor c then
    wrong (if isAlias then "while scanning an alias" else "while scanning an anchor") start
      "did not find expected alphabetic or numeric character" c
  else .ok (if isAlias then .alias (String.ofList name) else .anchor (String.ofList name), c)

/-! ## tags -/

/-- Reads a byte written in percent encoding. -/
def percentByte? (c : Cursor) : Option UInt8 :=
  match c.rest with
  | '%' :: h :: l :: _ => do return UInt8.ofNat ((← hexValue? h) * 16 + (← hexValue? l))
  | _ => none

/-- How many bytes a character has that begins with a byte; 0 for none. -/
def widthOf (b : UInt8) : Nat :=
  if b < 0x80 then 1 else if b &&& 0xE0 = 0xC0 then 2
  else if b &&& 0xF0 = 0xE0 then 3 else if b &&& 0xF8 = 0xF0 then 4 else 0

/-- Reads `count` further bytes of a character. -/
def trailingBytes (reading : String) (start : Mark) : (count : Nat) → Reader (List UInt8)
  | 0, c => .ok ([], c)
  | count + 1, c => match percentByte? c with
    | none => wrong reading start "did not find URI escaped octet" c
    | some b =>
      if b &&& 0xC0 ≠ 0x80 then
        wrong reading start "found an incorrect trailing UTF-8 octet" c
      else do
        let (bs, c) ← trailingBytes reading start count (c.skip 3)
        return (b :: bs, c)

/-- Reads a character written in percent encoding. -/
def readPercent (reading : String) (start : Mark) : Reader (List Char) := fun c =>
  match percentByte? c with
  | none => wrong reading start "did not find URI escaped octet" c
  | some b =>
    if widthOf b = 0 then wrong reading start "found an incorrect leading UTF-8 octet" c
    else do
      let (bs, c) ← trailingBytes reading start (widthOf b - 1) (c.skip 3)
      return (Text.Utf8.decodeLossy (b :: bs), c)

/-- Characters of a tag; inside angle brackets there are a few more. -/
def isTagChar (bracketed : Bool) (x : Char) : Bool :=
  isWordChar x || ";/?:@&=+$.%!~*'()".toList.contains x ||
    (bracketed && (x = ',' || x = '[' || x = ']'))

/-- Reads the characters of a tag behind those read before. -/
def tagChars (reading : String) (bracketed : Bool) (start : Mark) (fuel : Nat)
    (acc : List Char) : Reader (List Char) := fun c =>
  match fuel, c.next? with
  | 0, _ | _, none => .ok (acc, c)
  | fuel + 1, some x =>
    if !isTagChar bracketed x then .ok (acc, c)
    else if x = '%' then do
      let (cs, c) ← readPercent reading start c
      tagChars reading bracketed start fuel (acc ++ cs) c
    else tagChars reading bracketed start fuel (acc ++ [x]) (c.skip 1)

/-- Reads a tag without its handle; `head` is what was taken for a handle and is
part of the tag instead. -/
def readTagRest (isDirective bracketed : Bool) (start : Mark) (head : List Char) :
    Reader (List Char) := fun c => do
  let reading := if isDirective then "while parsing a %TAG directive" else "while parsing a tag"
  let (cs, c') ← tagChars reading bracketed start c.fuel (head.drop 1) c
  if cs.isEmpty ∧ head.isEmpty then wrong reading start "did not find expected tag URI" c'
  else return (cs, c')

/-- Reads a tag handle. -/
def readHandle (isDirective : Bool) (start : Mark) : Reader (List Char) := fun c =>
  if !c.is '!' then
    wrong (if isDirective then "while scanning a directive" else "while scanning a tag") start
      "did not find expected '!'" c
  else
    let (word, c) := (c.skip 1).takeWhile isWordChar
    if c.is '!' then .ok ('!' :: word ++ ['!'], c.skip 1)
    else if isDirective ∧ !word.isEmpty then
      wrong "while parsing a directive" start "did not find expected '!'" c
    else .ok ('!' :: word, c)

/-- Reads handle and rest of a tag. -/
def readTagParts (start : Mark) : Reader (String × String) := fun c =>
  if c.at? 1 = some '<' then do
    let (rest, c) ← readTagRest false true start [] (c.skip 2)
    if !c.is '>' then wrong "while scanning a tag" start "did not find the expected '>'" c
    else return (("", String.ofList rest), c.skip 1)
  else do
    let (handle, c) ← readHandle false start c
    if 1 < handle.length ∧ handle.getLast? = some '!' then
      let (rest, c) ← readTagRest false false start [] c
      return ((String.ofList handle, String.ofList rest), c)
    else
      let (rest, c) ← readTagRest false false start handle c
      return (if rest.isEmpty then ("", "!") else ("!", String.ofList rest), c)

/-- Reads a tag. -/
def readTag (inFlow : Bool) : Reader TokenKind := fun c => do
  let start := c.mark
  let ((handle, rest), c) ← readTagParts start c
  if !(inFlow && c.is ',') && !c.gapAt 0 then
    wrong "while scanning a tag" start "did not find expected whitespace or line break" c
  else return (.tag handle rest, c)

/-! ## directives -/

/-- Reads a number of a version. -/
def readVersionNumber (start : Mark) : Reader Nat := fun c =>
  let (digits, c') := c.takeWhile Char.isDigit
  if digits.isEmpty then
    wrong "while scanning a %YAML directive" start "did not find expected version number" c
  else if 9 < digits.length then
    wrong "while scanning a %YAML directive" start "found extremely long version number"
      (c.skip 9)
  else .ok (digits.foldl (fun n d => n * 10 + (d.toNat - '0'.toNat)) 0, c')

/-- Reads the version of a version directive. -/
def readVersion (start : Mark) : Reader TokenKind := fun c => do
  let (major, c) ← readVersionNumber start c.skipBlanks
  if !c.is '.' then
    wrong "while scanning a %YAML directive" start
      "did not find expected digit or '.' character" c
  else
    let (minor, c) ← readVersionNumber start (c.skip 1)
    return (.version major minor, c)

/-- Reads handle and meaning of a tag directive. -/
def readHandleMeaning (start : Mark) : Reader TokenKind := fun c => do
  let reading := "while scanning a %TAG directive"
  let (handle, c) ← readHandle true start c.skipBlanks
  if !c.next isBlank then wrong reading start "did not find expected whitespace" c
  else
    let (meaning, c) ← readTagRest true true start [] c.skipBlanks
    if !c.gapAt 0 then
      wrong reading start "did not find expected whitespace or line break" c
    else return (.handle (String.ofList handle) (String.ofList meaning), c)

/-- Reads a directive and the rest of its line; returns also where it ends. -/
def readDirective : Reader (TokenKind × Mark) := fun c => do
  let reading := "while scanning a directive"
  let start := c.mark
  let (name, c) := (c.skip 1).takeWhile isWordChar
  if name.isEmpty then wrong reading start "could not find expected directive name" c
  else if !c.gapAt 0 then
    wrong reading start "found unexpected non-alphabetical character" c
  else
    let (kind, c) ←
      if name = "YAML".toList then readVersion start c
      else if name = "TAG".toList then readHandleMeaning start c
      else wrong reading start "found unknown directive name" c
    let stop := c.mark
    let c := c.skipBlanks.skipComment
    if !c.endsLine then
      wrong reading start "did not find expected comment or line break" c
    else return ((kind, stop), c.skipBreak)

end AlertDesk.Yaml
