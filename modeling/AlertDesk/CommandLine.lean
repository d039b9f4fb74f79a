import AlertDesk.Kind

/-!
# AlertDesk.CommandLine

What a command line asks for, and what can be wrong with one.

A command line is a configuration file, an optional flag for the metrics, and
one of five commands.  `AlertDesk.CommandLine.Reader` reads it from its words.
-/

namespace AlertDesk

/-- A command. -/
inductive Command where
  /-- Print one page of records. -/
  | list (kind : Kind) (page pageSize : Option UInt64) (search : Option String)
  /-- Print a single record. -/
  | display (kind : Kind) (id : String)
  /-- Print an empty record under a fresh identifier. -/
  | new (kind : Kind)
  /-- Create or replace a record from a JSON file. -/
  | put (kind : Kind) (file : String)
  /-- Delete a record, `yes` without asking. -/
  | delete (kind : Kind) (id : String) (yes : Bool)
  deriving DecidableEq

/-- What a command line asks for. -/
structure CommandLine where
  /-- The configuration file. -/
  config : String
  /-- Whether to print the metrics at the end. -/
  metrics : Bool := false
  command : Command
  deriving DecidableEq

namespace CommandLine

/-- Why a command line asks for no command.  Asking for help or for the version
is among the reasons. -/
inductive Fault where
  | helpWanted
  | versionWanted
  /-- The command line is empty. -/
  | nothingGiven
  | commandMissing
  | commandUnknown
  | argumentUnknown
  | argumentMissing
  /-- An option is given twice. -/
  | argumentRepeated
  /-- An option or a file name without a value. -/
  | valueMissing
  /-- A value for an option that takes none. -/
  | valueUnwanted
  | kindUnknown
  | notANumber
  deriving DecidableEq

/-- The text of a fault. -/
def Fault.message : Fault → String
  | .helpWanted | .nothingGiven =>
    "usage: --config FILE [--metrics] COMMAND\n" ++
    "  list KIND [--page N] [--page-size N] [--search TEXT]\n" ++
    "  show KIND ID\n  new KIND\n  put KIND FILE\n  delete KIND ID [--yes]"
  | .versionWanted => "0.1.0"
  | .commandMissing => "no command is given"
  | .commandUnknown => "there is no such command"
  | .argumentUnknown => "there is no such argument"
  | .argumentMissing => "an argument is missing"
  | .argumentRepeated => "an option is given twice"
  | .valueMissing => "a value is missing"
  | .valueUnwanted => "an option takes no value"
  | .kindUnknown => "there is no such kind of record"
  | .notANumber => "a number is expected"

end CommandLine

end AlertDesk
