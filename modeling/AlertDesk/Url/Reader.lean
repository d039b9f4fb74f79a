import AlertDesk.Url
import AlertDesk.Url.Host

/-!
# AlertDesk.Url.Reader

URLs as text.  Control characters and blanks around the text, and tabs and line
breaks inside it, are dropped; what is left is cut into scheme, authority, path,
query and fragment.

A URL that begins with no scheme is refused, since there is no other URL that
it could be relative to.
-/

namespace AlertDesk.Url

/-- Characters dropped around a URL. -/
def isPadding (c : Char) : Bool := c.toNat ≤ 0x20

/-- Drops what does not count. -/
def clean (cs : List Char) : List Char :=
  ((cs.dropWhile isPadding).reverse.dropWhile isPadding).reverse.filter (!Path.isDropped ·)

/-- A letter of ASCII. -/
def isLetter (c : Char) : Bool := ('a' ≤ c && c ≤ 'z') || ('A' ≤ c && c ≤ 'Z')

/-- Characters of a scheme behind its first letter. -/
def isSchemeChar (c : Char) : Bool :=
  isLetter c || ('0' ≤ c && c ≤ '9') || c = '+' || c = '-' || c = '.'

/-- The scheme, in lower case, and what follows its colon. -/
def scheme? (cs : List Char) : Option (String × List Char) :=
  match cs with
  | [] => none
  | c :: _ =>
    if !isLetter c then none
    else match cs.dropWhile isSchemeChar with
      | ':' :: r => some (String.ofList ((cs.takeWhile isSchemeChar).map Char.toLower), r)
      | _ => none

/-! ## query and fragment -/

/-- What is left behind the path: query and fragment. -/
structure Tail where
  query : Option String := none
  fragment : Option String := none

/-- A text cut before a character, and what follows it. -/
def cutAt (mark : Char) (cs : List Char) : List Char × Option (List Char) :=
  match cs.dropWhile (· ≠ mark) with
  | [] => (cs, none)
  | _ :: r => (cs.takeWhile (· ≠ mark), some r)

/-- Cuts query and fragment from the path. -/
def cutTail (special : Bool) (cs : List Char) : List Char × Tail :=
  let (cs, fragment) := cutAt '#' cs
  let (cs, query) := cutAt '?' cs
  let encoded (set : Char → Bool) (part : List Char) : String :=
    String.ofList (Percent.encode set part)
  (cs, {
    query := query.map (encoded (Percent.querySet special))
    fragment := fragment.map (encoded Percent.fragmentSet) })

/-! ## authority -/

/-- Whether a character is a slash. -/
def isSlash (special : Bool) (c : Char) : Bool := c = '/' || (special && c = '\\')

/-- Whether a character ends the authority. -/
def endsAuthority (special : Bool) (c : Char) : Bool := isSlash special c || c = '?' || c = '#'

/-- A text cut at its last `@`, if it has one. -/
def cutUser (cs : List Char) : Option (List Char) × List Char :=
  match cs.reverse.dropWhile (· ≠ '@') with
  | [] => (none, cs)
  | _ :: front => (some front.reverse, (cs.reverse.takeWhile (· ≠ '@')).reverse)

/-- User name and password. -/
def readUser (cs : List Char) : String × Option String :=
  let encoded (part : List Char) : String := String.ofList (Percent.encode Percent.userSet part)
  let (user, password) := cutAt ':' cs
  (encoded user, (password.filter (!·.isEmpty)).map encoded)

/-- A host cut from its port: colons inside brackets do not count. -/
def cutPort (inside : Bool) : List Char → List Char × Option (List Char)
  | [] => ([], none)
  | c :: r =>
    if c = ':' ∧ !inside then ([], some r)
    else
      let (host, port) := cutPort (if c = '[' then true else if c = ']' then false else inside) r
      (c :: host, port)

/-- A port; `none` if it has no digits or is the one that the scheme stands for. -/
def readPort (scheme : String) (cs : List Char) : Except Fault (Option Nat) :=
  match cs.foldlM (fun n c => (V4.digit? 10 c).map (n * 10 + ·)) 0 with
  | none => .error .badPort
  | some n =>
    if 65535 < n then .error .badPort
    else if cs.isEmpty ∨ defaultPort? scheme = some n then .ok none
    else .ok (some n)

/-- The parts of an authority. -/
structure Authority where
  user : String := ""
  password : Option String := none
  host : String
  port : Option Nat := none

/-- Whether a user name or a password is given. -/
def Authority.hasUser (a : Authority) : Bool := a.user ≠ "" || a.password.isSome

/-- Reads the authority of a URL that is no file; `atEnd` says that nothing follows it. -/
def readAuthority (scheme : String) (atEnd : Bool) (cs : List Char) : Except Fault Authority := do
  let special := isSpecialScheme scheme
  let (user, rest) := cutUser cs
  if user = some [] ∧ rest.isEmpty ∧ !atEnd then throw .emptyHost
  let (user, password) := readUser (user.getD [])
  let (host, port) := cutPort false rest
  if special ∧ host.isEmpty then throw .emptyHost
  let host ← if special then Host.ofWeb host else Host.ofOther host
  if host = "" ∧ port.isSome then throw .emptyHost
  let port ← match port with
    | some cs => readPort scheme cs
    | none => pure none
  let authority : Authority := { user, password, host, port }
  if host = "" ∧ authority.hasUser then throw .emptyHost
  return authority

/-! ## path -/

/-- Cuts a text into the parts between slashes. -/
def cutSlashes (special : Bool) (cs : List Char) : List (List Char) :=
  Form.splitAt '/' (cs.map fun c => if isSlash special c then '/' else c)

/-- The path behind an authority.  A special URL has a path even if nothing is written. -/
def readPath (special : Bool) (cs : List Char) : List String :=
  match cs with
  | [] => if special then [""] else []
  | c :: r => Path.resolve (cutSlashes special (if isSlash special c then r else c :: r))

/-- The path of a file: slashes at its front do not count. -/
def readFilePath (cs : List Char) : List String :=
  Path.resolve (cutSlashes true (cs.dropWhile (isSlash true)))

/-! ## URLs -/

/-- Reads what follows `scheme:` and the slashes of an authority. -/
def readWithAuthority (scheme : String) (cs : List Char) : Except Fault Url := do
  let special := isSpecialScheme scheme
  let rest := cs.dropWhile (!endsAuthority special ·)
  let a ← readAuthority scheme rest.isEmpty (cs.takeWhile (!endsAuthority special ·))
  let (path, tail) := cutTail special rest
  return {
    scheme, user := a.user, password := a.password, host := some a.host, port := a.port
    path := .segments (readPath special path), query := tail.query, fragment := tail.fragment }

/-- Reads what follows `file:`. -/
def readFile (cs : List Char) : Except Fault Url := do
  let slashes := (cs.takeWhile (isSlash true)).length
  let (host, rest) :=
    if slashes = 2 then
      let r := cs.drop 2
      (r.takeWhile (!endsAuthority true ·), r.dropWhile (!endsAuthority true ·))
    else ([], cs)
  let host ← if host.isEmpty then pure "" else Host.ofWeb host
  let (path, tail) := cutTail true rest
  return {
    scheme := "file", host := some (if host = "localhost" then "" else host)
    path := .segments (readFilePath path), query := tail.query, fragment := tail.fragment }

/-- Reads what follows the colon of a scheme that is not special. -/
def readOther (scheme : String) (cs : List Char) : Except Fault Url :=
  match cs with
  | '/' :: '/' :: r => readWithAuthority scheme r
  | '/' :: r =>
    let (path, tail) := cutTail false r
    .ok { scheme, path := .segments (Path.resolve (cutSlashes false path)), query := tail.query,
          fragment := tail.fragment }
  | cs =>
    let (path, tail) := cutTail false cs
    let path := String.ofList (Percent.encode Percent.isControl path)
    .ok { scheme, path := .bare path, query := tail.query, fragment := tail.fragment }

/-- Reads a URL. -/
def parse (s : String) : Except Fault Url :=
  match scheme? (clean s.toList) with
  | none => .error .relative
  | some (scheme, r) =>
    if scheme = "file" then readFile r
    else if isSpecialScheme scheme then readWithAuthority scheme (r.dropWhile (isSlash true))
    else readOther scheme r

end AlertDesk.Url
