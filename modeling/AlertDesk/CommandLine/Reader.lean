import AlertDesk.CommandLine

/-!
# AlertDesk.CommandLine.Reader

Reading a command line from its words.

The words before the command's name set the options of the program, those after
it the options and arguments of the command.  An option is written `--name` or
`-n`, its value as the next word, after `=`, or directly behind the letter;
letters of options without value can be joined.  After `--` every word is an
argument.

The value of a word is looked at only when the next option or argument begins,
or at the end, and a word that fits nowhere is reported before that: of two
faults the later one can win.  What comes before the command's name is looked at
after everything behind it.

Main fact: `settle_settle`, looking at a value twice does nothing more.
-/

namespace AlertDesk.CommandLine

/-! ## slots -/

/-- Something a command line can set. -/
inductive Slot where
  | config | metrics | kind | page | pageSize | search | id | file | yes | help | version
  deriving DecidableEq

namespace Slot

/-- The name of an option. -/
def name? : Slot → Option String
  | .config => some "config"
  | .metrics => some "metrics"
  | .page => some "page"
  | .pageSize => some "page-size"
  | .search => some "search"
  | .yes => some "yes"
  | .help => some "help"
  | .version => some "version"
  | .kind | .id | .file => none

/-- The letter of an option. -/
def letter? : Slot → Option Char
  | .config => some 'c'
  | .search => some 's'
  | .yes => some 'y'
  | .help => some 'h'
  | .version => some 'V'
  | .metrics | .page | .pageSize | .kind | .id | .file => none

/-- Whether a slot takes a value. -/
def takesValue : Slot → Bool
  | .metrics | .yes | .help | .version => false
  | .config | .kind | .page | .pageSize | .search | .id | .file => true

end Slot

/-! ## values -/

/-- What has been set. -/
structure Given where
  config : Option String := none
  metrics : Bool := false
  kind : Option Kind := none
  page : Option UInt64 := none
  pageSize : Option UInt64 := none
  search : Option String := none
  id : Option String := none
  file : Option String := none
  yes : Bool := false
  deriving DecidableEq

/-- The value of a decimal digit. -/
def digit? (c : Char) : Option Nat :=
  if '0' ≤ c ∧ c ≤ '9' then some (c.toNat - '0'.toNat) else none

/-- A number written in decimal digits; a plus sign may stand in front. -/
def number? (s : String) : Option Nat :=
  let digits := match s.toList with
    | '+' :: r => r
    | cs => cs
  if digits.isEmpty then none
  else (digits.mapM digit?).map (·.foldl (fun n d => 10 * n + d) 0)

/-- Reads a number of 64 bits. -/
def readCount (s : String) : Except Fault UInt64 :=
  match number? s with
  | some n => if n < UInt64.size then .ok (UInt64.ofNat n) else .error .notANumber
  | none => .error .notANumber

/-- Reads a kind of record. -/
def readKind (s : String) : Except Fault Kind :=
  match Kind.ofName s false with
  | .ok kind => .ok kind
  | .error _ => .error .kindUnknown

/-- Reads the name of a file. -/
def readFile (s : String) : Except Fault String :=
  if s = "" then .error .valueMissing else .ok s

/-- Reads a value where none has been set yet. -/
def readOnce {α : Type} (seen : Option α) (read : String → Except Fault α) (s : String) :
    Except Fault (Option α) :=
  if seen.isSome then .error .argumentRepeated else (read s).map some

namespace Given

/-- Sets a slot that takes a value. -/
def store (g : Given) (slot : Slot) (s : String) : Except Fault Given :=
  match slot with
  | .config => do return { g with config := ← readOnce g.config readFile s }
  | .kind => do return { g with kind := ← readOnce g.kind readKind s }
  | .page => do return { g with page := ← readOnce g.page readCount s }
  | .pageSize => do return { g with pageSize := ← readOnce g.pageSize readCount s }
  | .search => do return { g with search := ← readOnce g.search .ok s }
  | .id => do return { g with id := ← readOnce g.id .ok s }
  | .file => do return { g with file := ← readOnce g.file readFile s }
  | .metrics | .yes | .help | .version => .ok g

/-- Sets a slot that takes none. -/
def mark (g : Given) (slot : Slot) : Except Fault Given :=
  match slot with
  | .metrics => if g.metrics then .error .argumentRepeated else .ok { g with metrics := true }
  | .yes => if g.yes then .error .argumentRepeated else .ok { g with yes := true }
  | .help => .error .helpWanted
  | .version => .error .versionWanted
  | .config | .kind | .page | .pageSize | .search | .id | .file => .ok g

end Given

/-! ## words -/

/-- A word that has been read and not looked at. -/
inductive Pending where
  | nothing
  /-- An option whose value is to come. -/
  | option (slot : Slot)
  | value (slot : Slot) (text : String)
  deriving DecidableEq

/-- How far reading has come. -/
structure Progress where
  given : Given := {}
  pending : Pending := .nothing
  /-- Arguments that have not been given. -/
  arguments : List Slot
  /-- Whether `--` has been read. -/
  plainOnly : Bool := false

namespace Progress

/-- Looks at what is pending. -/
def settle (p : Progress) : Except Fault Progress :=
  match p.pending with
  | .nothing => .ok p
  | .option _ => .error .valueMissing
  | .value slot s => do return { p with given := ← p.given.store slot s, pending := .nothing }

/-- Whether the next word is the value of an option, unless it is an option itself. -/
def awaitsValue (p : Progress) : Bool :=
  match p.pending with
  | .option _ => !p.plainOnly
  | .nothing | .value .. => false

/-- Sets a slot. -/
def store (p : Progress) (slot : Slot) (s : String) : Except Fault Progress := do
  let p ← p.settle
  return { p with given := ← p.given.store slot s }

/-- Waits for the value of an option. -/
def await (p : Progress) (slot : Slot) : Except Fault Progress := do
  return { ← p.settle with pending := .option slot }

/-- Sets a slot that takes no value. -/
def mark (p : Progress) (slot : Slot) : Except Fault Progress := do
  let p ← p.settle
  return { p with given := ← p.given.mark slot }

/-- Reads `--name` or `--name=value`. -/
def long (options : List Slot) (p : Progress) (name : String) (value : Option String) :
    Except Fault Progress :=
  match options.find? (·.name? = some name), value with
  | none, _ => .error .argumentUnknown
  | some slot, some v => if slot.takesValue then p.store slot v else .error .valueUnwanted
  | some slot, none => if slot.takesValue then p.await slot else p.mark slot

/-- Reads the letters of a word that begins with one dash. -/
def letters (options : List Slot) (p : Progress) : List Char → Except Fault Progress
  | [] => .ok p
  | c :: cs => match options.find? (·.letter? = some c) with
    | none => .error .argumentUnknown
    | some slot =>
      if slot.takesValue then match cs with
        | [] => p.await slot
        | '=' :: v => p.store slot (String.ofList v)
        | v => p.store slot (String.ofList v)
      else do letters options (← p.mark slot) cs

/-- Reads a word that is no option; `surplus` is the fault if no argument is left. -/
def plain (surplus : Fault) (p : Progress) (w : String) : Except Fault Progress :=
  match p.pending, p.plainOnly with
  | .option slot, false => .ok { p with pending := .value slot w }
  | _, _ => match p.arguments with
    | [] => .error surplus
    | slot :: rest => do return { ← p.settle with arguments := rest, pending := .value slot w }

/-- Reads a word. -/
def word (options : List Slot) (surplus : Fault) (p : Progress) (w : String) :
    Except Fault Progress :=
  if p.plainOnly then p.plain surplus w
  else match w.toList with
    | ['-', '-'] => .ok { p with plainOnly := true }
    | '-' :: '-' :: r =>
      let value := match r.dropWhile (· ≠ '=') with
        | '=' :: v => some (String.ofList v)
        | _ => none
      p.long options (String.ofList (r.takeWhile (· ≠ '='))) value
    | '-' :: c :: cs => p.letters options (c :: cs)
    | _ => p.plain surplus w

end Progress

/-! ## commands -/

/-- The name of a command. -/
inductive Verb where
  | list | display | new | put | delete
  deriving DecidableEq

namespace Verb

/-- Every command. -/
def all : List Verb := [.list, .display, .new, .put, .delete]

/-- The word for a command. -/
def word : Verb → String
  | .list => "list"
  | .display => "show"
  | .new => "new"
  | .put => "put"
  | .delete => "delete"

/-- The command with a name. -/
def ofWord? (w : String) : Option Verb := all.find? (·.word = w)

/-- The options of a command. -/
def options : Verb → List Slot
  | .list => [.page, .pageSize, .search, .help]
  | .delete => [.yes, .help]
  | .display | .new | .put => [.help]

/-- The arguments of a command, all of which are required. -/
def arguments : Verb → List Slot
  | .list | .new => [.kind]
  | .display | .delete => [.kind, .id]
  | .put => [.kind, .file]

/-- The command with what has been set for it. -/
def command? (v : Verb) (g : Given) : Option Command :=
  match v with
  | .list => g.kind.map fun kind => .list kind g.page g.pageSize g.search
  | .display => do return .display (← g.kind) (← g.id)
  | .new => g.kind.map .new
  | .put => do return .put (← g.kind) (← g.file)
  | .delete => do return .delete (← g.kind) (← g.id) g.yes

/-- Reads the words behind the name of a command. -/
def read (v : Verb) (words : List String) : Except Fault Command := do
  let p ← words.foldlM (Progress.word v.options .argumentUnknown) { arguments := v.arguments }
  match v.command? (← p.settle).given with
  | some command => return command
  | none => throw .argumentMissing

end Verb

/-! ## the command line -/

/-- The word that asks for help on a command. -/
def helpWord : String := "help"

/-- The options of the program. -/
def options : List Slot := [.config, .metrics, .help, .version]

/-- Whether a word is the name of a command, help included. -/
def isCommand (w : String) : Bool := (Verb.ofWord? w).isSome || w = helpWord

/-- What comes of the words behind `help`. -/
def helpOn : List String → Fault
  | [] => .helpWanted
  | [w] => if isCommand w then .helpWanted else .commandUnknown
  | _ => .commandUnknown

/-- The fault of a command line that ends before a command is named. -/
def unfinished (g : Given) : Fault :=
  if g = {} then .nothingGiven else .commandMissing

/-- The fault of a word where a command is expected. -/
def misplaced (p : Progress) (w : String) : Fault :=
  if p.plainOnly && isCommand w then .argumentUnknown else .commandUnknown

/-- Reads the words of a command line on from some point. -/
def readFrom (p : Progress) : List String → Except Fault CommandLine
  | [] => do throw (unfinished (← p.settle).given)
  | w :: ws =>
    if p.plainOnly || p.awaitsValue then do
      readFrom (← p.word options (misplaced p w) w) ws
    else match Verb.ofWord? w with
      | some v => do
        let command ← v.read ws
        let g := (← p.settle).given
        match g.config with
        | some config => return { config, metrics := g.metrics, command }
        | none => throw .argumentMissing
      | none =>
        if w = helpWord then .error (helpOn ws)
        else do readFrom (← p.word options (misplaced p w) w) ws

/-- Reads a command line. -/
def read (words : List String) : Except Fault CommandLine := readFrom { arguments := [] } words

/-! ## what reading does -/

/-- Nothing is left to look at after looking. -/
theorem pending_settle {p q : Progress} (h : p.settle = .ok q) : q.pending = .nothing := by
  unfold Progress.settle at h
  split at h
  · cases h; assumption
  · cases h
  · cases hs : p.given.store _ _ with
    | error e => rw [hs] at h; cases h
    | ok g => rw [hs] at h; cases h; rfl

theorem settle_settle {p q : Progress} (h : p.settle = .ok q) : q.settle = .ok q := by
  simp [Progress.settle, pending_settle h]

@[simp] theorem ofWord?_word (v : Verb) : Verb.ofWord? v.word = some v := by
  cases v <;> rfl

end AlertDesk.CommandLine
