import AlertDesk.CommandLine.Reader
import AlertDesk.Console
import AlertDesk.Uuid

/-!
# AlertDesk.Main

The program at a terminal.  It reads the command line, the files and the
environment, has `Console.run` do the work, and writes what comes of it.  It has
no connection to a network, so that every request finds the portal out of reach.

Input is read only when a question is asked: a run that has asked more questions
than there are lines is run again with one more chunk of input.
-/

namespace AlertDesk.Main

open Console (Event FileFault Run Surroundings)

/-- The events up to a question, counted from 0; all of them if there is none. -/
def upTo : Nat → List Event → List Event
  | _, [] => []
  | 0, .asked question answer :: _ => [.asked question answer]
  | n + 1, .asked question answer :: events => .asked question answer :: upTo n events
  | n, e :: events => e :: upTo n events

/-- The number of whole lines in an input. -/
def lines (input : Input) : Nat := input.countP fun chunk => chunk.contains Input.newline

/-- Whether a run has asked for more input than it was given. -/
def wantsInput (input : Input) (o : Run Journal) : Bool :=
  lines input < o.answers.length && input.getLast?.all fun chunk => !chunk.isEmpty

/-- The text of a file. -/
def readText (name : String) : IO (Except FileFault String) := do
  try
    match Text.Utf8.decode? (← IO.FS.readBinFile name).toList with
    | some cs => return .ok (String.ofList cs)
    | none => return .error .notText
  catch
    | .noFileOrDirectory .. => return .error .missing
    | e => return .error (.unreadable (toString e))

/-- The files that a command line names. -/
def fileNames (line : CommandLine) : List String :=
  match line.command with
  | .put _ file => [line.config, file]
  | _ => [line.config]

/-- The environment variable that the configuration asks for. -/
def unsetVariable (s : Surroundings) (config : String) : Option String :=
  match Console.settings s config with
  | .error (.config (.misfit _ (.settings (.variableUnset name)) _)) => some name
  | _ => none

/-- What a run finds around it, apart from the input. -/
def look (line : CommandLine) : IO Surroundings := do
  let texts ← (fileNames line).mapM fun name => return (name, ← readText name)
  let bits := (← IO.getRandomBytes 16).toList.foldl (fun n b => 256 * n + b.toNat) 0
  let s : Surroundings := {
    files := fun name => ((texts.find? (·.1 = name)).map (·.2)).getD (.error .missing)
    fresh := Uuid.text bits }
  match unsetVariable s line.config with
  | none => return s
  | some name =>
    let value ← IO.getEnv name
    return { s with env := fun n => if n = name then value else none }

/-- Writes events. -/
def write (events : List Event) : IO Unit := do
  for e in events do
    IO.print e.toStdout
    IO.eprint e.toStderr
  (← IO.getStdout).flush

/-- Runs a command line; so many events have been written. -/
partial def converse (s : Surroundings) (line : CommandLine) (written : Nat) :
    IO (Run Journal) := do
  let o := Console.run Script.offline s line
  if wantsInput s.input o then
    let events := upTo (lines s.input) o.events
    write (events.drop written)
    let chunk ← (← IO.getStdin).read (USize.ofNat Input.chunkSize)
    converse { s with input := s.input ++ [chunk.toList] } line events.length
  else
    write (o.events.drop written)
    return o

/-- Writes the samples of the metrics. -/
def writeMetrics (j : Journal) : IO Unit := do
  for (sample, n) in (Metrics.samples j.events).entries do
    IO.eprintln (sample ++ " " ++ toString n)

/-- Runs a command line and returns the exit code. -/
def perform (line : CommandLine) : IO UInt32 := do
  let o ← converse (← look line) line 0
  if line.metrics then writeMetrics o.portal
  match o.result with
  | some (.error fault) =>
    IO.eprintln ("Error: " ++ fault.message)
    return 1
  | _ => return 0

end AlertDesk.Main

/-- The program. -/
def main (args : List String) : IO UInt32 := do
  match AlertDesk.CommandLine.read args with
  | .ok line => AlertDesk.Main.perform line
  | .error fault =>
    if fault = .helpWanted || fault = .versionWanted then
      IO.println fault.message
      return 0
    else
      IO.eprintln fault.message
      return 2
