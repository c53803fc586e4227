import WireSchema.Command.Arguments
import WireSchema.Module.Standard
import WireSchema.Toml.Document

/-!
# The program

The program reads the files that the command can need, runs it on what they hold, and writes its
output. Log records and errors go to the standard error stream.
-/

namespace WireSchema.Program

/-- The files read so far, with what was found at each path. -/
abbrev Snapshot := List (Path × Except FileError String)

/-- What a reader sees of the files read so far. -/
def viewOf (s : Snapshot) : View := fun p =>
  (s.lookup p).getD (.error .notFound)

/-- Is there a file at a path, as far as reading it has shown? -/
def isFileIn (s : Snapshot) (p : Path) : Bool :=
  match s.lookup p with
  | some (.ok _) => true
  | some (.error .notText) => true
  | some (.error .permissionDenied) => true
  | _ => false

/-- The cause of a failed system call. -/
def fileError : IO.Error → FileError
  | .permissionDenied .. => .permissionDenied
  | .inappropriateType _ 20 _ => .notDirectory
  | .inappropriateType _ _ _ => .isDirectory
  | _ => .notFound

/-- Read the file at a path. -/
def readPath (p : Path) : IO (Except FileError String) := do
  match ← (IO.FS.readBinFile p.text).toBaseIO with
  | .error e => return .error (fileError e)
  | .ok bytes =>
    match String.fromUTF8? bytes with
    | some text => return .ok text
    | none => return .error .notText

/-- Read schema files and all that they include, each path once. -/
partial def readIncluded (dir : Path) : Snapshot → List Path → IO Snapshot
  | s, [] => return s
  | s, p :: ps => do
    if (s.lookup p).isSome then readIncluded dir s ps
    else
      let found ← readPath p
      let s := (p, found) :: s
      match readSchema Toml.reader (viewOf s) p with
      | .ok file => readIncluded dir s (ps ++ file.includedPaths dir)
      | .error _ => readIncluded dir s ps

/-- Read all files that a command can need. -/
def snapshot (c : Command) : IO Snapshot := do
  let dir := c.input.directory
  let settings := c.settings.getD (Settings.candidate dir)
  let found ← readPath settings
  let schema ← readIncluded dir [] [resolveInclude dir c.input]
  return if (schema.lookup settings).isSome then schema else (settings, found) :: schema

/-- The text of an argument error. -/
def argumentText : ArgumentError → String
  | .missing => "error: a required option is missing"
  | .badValue => "error: an option has no valid value"
  | .unknown => "error: unexpected argument"
  | .repeated => "error: an option is given more than once"
  | .unneededValue => "error: a flag takes no value"
  | .help => "Usage: battlegen [OPTIONS] --input <PATH> --output <PATH>"
  | .version => "battlegen 0.4.0"

/-- Report an error with its causes. -/
def reportError (e : CommandError) : IO UInt32 := do
  match e.chain with
  | [] => pure ()
  | first :: causes =>
    IO.eprintln ("Error: " ++ first)
    for cause in causes do
      IO.eprintln ("    " ++ cause)
  return 1

/-- Print a log record. -/
def printRecord (r : Record) : IO Unit :=
  IO.eprintln (r.level.name ++ " " ++ r.text)

/-- Run a command. It does not come to an end where the load of the schema does not. -/
def runCommand (c : Command) : IO UInt32 := do
  let s ← snapshot c
  let some result := c.compile Toml.reader Module.standardGrammar (viewOf s) (isFileIn s)
    | return 1
  result.log.forM printRecord
  match result.outcome with
  | .error e => reportError e
  | .ok text =>
    match ← (IO.FS.writeFile c.output.text text).toBaseIO with
    | .error e => reportError (.write c.output (fileError e))
    | .ok () =>
      printRecord (.wrote c.output.text)
      return 0

end WireSchema.Program

open WireSchema in
/-- The program. -/
def main (args : List String) : IO UInt32 := do
  match Command.ofArguments args (← IO.getEnv "BATTLEGEN_CONFIG") with
  | .ok c => Program.runCommand c
  | .error .help =>
    IO.println (Program.argumentText .help)
    return 0
  | .error .version =>
    IO.println (Program.argumentText .version)
    return 0
  | .error e =>
    IO.eprintln (Program.argumentText e)
    return 2
