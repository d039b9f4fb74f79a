import AlertDesk.Binary64.Shortest
import AlertDesk.Text.Quoted
import AlertDesk.Yaml.Token

/-!
# AlertDesk.Yaml.Scalar

What a scalar means.  A plain scalar without a tag is null, a boolean, an integer
or a float if it is written like one, and otherwise a text; a quoted or block
scalar is a text.  A tag of the core types asks for that type.
-/

namespace AlertDesk.Yaml

/-- What a scalar means. -/
inductive Scalar where
  | null
  | bool (value : Bool)
  /-- An integer that fits a word of 64 bits, signed or unsigned. -/
  | int (value : Int)
  /-- An integer that fits a word of 128 bits only. -/
  | wide (value : Int)
  | real (value : Binary64)
  /-- An infinity, or not a number. -/
  | nonFinite (name : String)
  | str (value : String)
  deriving DecidableEq

namespace Scalar

/-! ## tags -/

/-- A tag of the core types. -/
def coreTag (name : String) : String := "tag:yaml.org,2002:" ++ name

/-- The name of a tag that stands for itself, such as `!x`. -/
def localTag? (tag : Option String) : Option String :=
  match tag with
  | none => none
  | some t => match t.toList with
    | '!' :: r => some (String.ofList (if r.isEmpty then ['!'] else r))
    | _ => none

/-! ## words and numbers -/

/-- Whether a text is one of the words for null. -/
def isNull (s : String) : Bool := s = "null" || s = "Null" || s = "NULL" || s = "~"

/-- The boolean that a text is a word for. -/
def bool? (s : String) : Option Bool :=
  if s = "true" ∨ s = "True" ∨ s = "TRUE" then some true
  else if s = "false" ∨ s = "False" ∨ s = "FALSE" then some false
  else none

/-- The digit of a base. -/
def digit? (base : Nat) (c : Char) : Option Nat :=
  let value :=
    if '0' ≤ c ∧ c ≤ '9' then c.toNat - '0'.toNat
    else if 'a' ≤ c ∧ c ≤ 'f' then c.toNat - 'a'.toNat + 10
    else if 'A' ≤ c ∧ c ≤ 'F' then c.toNat - 'A'.toNat + 10
    else base
  if value < base then some value else none

/-- The number of one or more digits of a base. -/
def digits? (base : Nat) (cs : List Char) : Option Nat :=
  if cs.isEmpty then none else cs.foldlM (fun n c => (digit? base c).map (n * base + ·)) 0

/-- A text without its sign. -/
def unsigned (cs : List Char) : List Char :=
  match cs with
  | '-' :: r | '+' :: r => r
  | cs => cs

/-- Digits with a zero in front, which are no number. -/
def isPadded (cs : List Char) : Bool :=
  match unsigned cs with
  | '0' :: c :: r => (c :: r).all Char.isDigit
  | _ => false

/-- The number behind the mark of its base, if one is given, or in decimal. -/
def magnitude? (cs : List Char) : Option Nat :=
  match cs with
  | '0' :: 'x' :: r => digits? 16 r
  | '0' :: 'o' :: r => digits? 8 r
  | '0' :: 'b' :: r => digits? 2 r
  | cs => if isPadded cs then none else digits? 10 cs

/-- The number that is written without a minus. -/
def nonNegative? (cs : List Char) : Option Nat :=
  match cs with
  | '+' :: r => magnitude? r
  | cs => magnitude? cs

/-- The integer that a text is written as. -/
def integer? (cs : List Char) : Option Int :=
  match cs with
  | '-' :: r => (magnitude? r).map fun n => -(n : Int)
  | cs => (nonNegative? cs).map fun n => (n : Int)

/-- Half the number of words of 64 bits. -/
def halfWord : Int := 0x8000000000000000

/-- Half the number of words of 128 bits. -/
def halfWideWord : Int := 0x80000000000000000000000000000000

/-- An integer, if it fits 128 bits. -/
def ofInteger? (i : Int) : Option Scalar :=
  if -halfWord ≤ i ∧ i < 2 * halfWord then some (.int i)
  else if -halfWideWord ≤ i ∧ i < 2 * halfWideWord then some (.wide i)
  else none

/-- Digits, a point, digits and an exponent: the digits as a number and the power of ten. -/
def decimal? (cs : List Char) : Option (Nat × Int) := do
  let whole := cs.takeWhile Char.isDigit
  let r := cs.drop whole.length
  let (frac, r) := match r with
    | '.' :: r => (r.takeWhile Char.isDigit, r.dropWhile Char.isDigit)
    | r => ([], r)
  let n ← digits? 10 (whole ++ frac)
  match r with
  | [] => return (n, -frac.length)
  | e :: r =>
    if e ≠ 'e' ∧ e ≠ 'E' then none
    else
      let exponent ← digits? 10 (unsigned r)
      return (n, (if r.head? = some '-' then -(exponent : Int) else exponent) - frac.length)

/-- The float that a text is written as. -/
def float? (s : String) : Option Scalar :=
  let cs := s.toList
  let positive := match cs with
    | '+' :: r => r
    | cs => cs
  let word := String.ofList positive
  if word = ".inf" ∨ word = ".Inf" ∨ word = ".INF" then some (.nonFinite "inf")
  else if s = "-.inf" ∨ s = "-.Inf" ∨ s = "-.INF" then some (.nonFinite "-inf")
  else if s = ".nan" ∨ s = ".NaN" ∨ s = ".NAN" then some (.nonFinite "NaN")
  else
    match decimal? (unsigned cs) with
    | none => none
    | some (n, exponent) =>
      (Binary64.ofDecimalExact (cs.head? = some '-') n exponent).map .real

/-! ## meaning -/

/-- What a plain scalar without a tag means. -/
def ofPlain (s : String) : Scalar :=
  if s = "" ∨ isNull s then .null
  else match bool? s with
    | some b => .bool b
    | none => match (integer? s.toList).bind ofInteger? with
      | some n => n
      | none => match if isPadded s.toList then none else float? s with
        | some x => x
        | none => .str s

/-- What a scalar means; the error names the type that its tag asks for. -/
def resolve (tag : Option String) (s : String) (style : Style) : Except String Scalar :=
  let wanted (name : String) (v : Option Scalar) : Except String Scalar :=
    match v with
    | some v => .ok v
    | none => .error name
  if tag = some (coreTag "bool") then wanted "a boolean" ((bool? s).map .bool)
  else if tag = some (coreTag "int") then
    wanted "an integer" ((integer? s.toList).bind ofInteger?)
  else if tag = some (coreTag "float") then wanted "a float" (float? s)
  else if tag = some (coreTag "null") then wanted "null" (if isNull s then some .null else none)
  else if tag.isNone ∧ style = .plain then .ok (ofPlain s)
  else .ok (.str s)

/-- The number as a message writes it. -/
def intText (i : Int) : String := (if i < 0 then "-" else "") ++ Nat.repr i.natAbs

/-- How a message names a scalar that is not of the wanted type. -/
def describe : Scalar → String
  | .null => "unit value"
  | .bool b => "boolean `" ++ (if b then "true" else "false") ++ "`"
  | .int i => "integer `" ++ intText i ++ "`"
  | .wide i => "integer `" ++ intText i ++ "` as " ++ (if i < 0 then "i128" else "u128")
  | .real x => "floating point `" ++ x.positional ++ "`"
  | .nonFinite name => "floating point `" ++ name ++ "`"
  | .str s => "string " ++ Text.quoted s

end Scalar

end AlertDesk.Yaml
