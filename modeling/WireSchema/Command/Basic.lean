import WireSchema.Backend
import WireSchema.Files.Load
import WireSchema.Files.SettingsFile

/-!
# The command

The command reads settings and a schema, emits the schema by one backend and writes the result to
a file. Nothing is written unless all else succeeds.

## Main definitions

* `Command`: what the command is asked to do.
* `CommandError`, `CommandError.chain`: why it fails, from the outermost cause to the innermost.
* `Command.compile`: all that comes before the output is written.
* `Command.run`: the whole command on a disk.
-/

namespace WireSchema

/-- What the command is asked to do. -/
structure Command where
  /-- The first file of the schema. -/
  input : Path
  /-- The file that is written. -/
  output : Path
  /-- The tag of the backend. -/
  tag : String := "c"
  /-- The settings file. Without one, settings are looked for next to the input. -/
  settings : Option Path := none
  deriving DecidableEq, Repr

/-- Why the command fails. -/
inductive CommandError
  /-- There is no such backend, or it refuses the schema. -/
  | build (e : BuildError)
  /-- The settings file cannot be used. -/
  | settingsFile (path : Path) (e : SettingsError)
  /-- The settings file of a directory cannot be used. -/
  | settingsIn (dir : Path) (e : SettingsError)
  /-- The schema cannot be loaded. -/
  | load (input : Path) (e : LoadError)
  /-- The output cannot be written. -/
  | write (output : Path) (e : FileError)
  deriving DecidableEq, Repr

/-- The causes of a failed build. -/
def BuildError.chain (e : BuildError) : List String :=
  e.text ::
    match e with
    | .runtimePath _ cause => [cause]
    | .fieldType _ _ cause => [cause.text]
    | _ => []

/-- The causes of unusable settings. -/
def SettingsError.chain (e : SettingsError) : List String :=
  e.text ::
    match e with
    | .unreadable _ cause => [cause.text]
    | .invalid cause => [cause]

/-- The causes of a failed load. -/
def LoadError.chain (e : LoadError) : List String :=
  e.text ::
    match e with
    | .unreadable _ cause => [cause.text]
    | .unparsable _ cause => [cause]

/-- The causes of an error, from the outermost to the innermost. -/
def CommandError.chain : CommandError → List String
  | build e => e.chain
  | settingsFile path e => s!"loading config {path.text}" :: e.chain
  | settingsIn dir e => s!"loading config from {dir.text}" :: e.chain
  | load input e => s!"loading schema {input.text}" :: e.chain
  | write output e => [s!"writing {output.text}", e.text]

namespace Command

/-- The settings that the command uses. -/
def readSettings (c : Command) (r : DocumentReader) (read : View) (isFile : Path → Bool) :
    Except CommandError Settings :=
  match c.settings with
  | some path => (Settings.ofFile r read path).mapError (.settingsFile path)
  | none =>
    let dir := c.input.directory
    (Settings.discover r read isFile dir).mapError (.settingsIn dir)

/-- The backend and the settings that the command uses. -/
def prepare (c : Command) (r : DocumentReader) (read : View) (isFile : Path → Bool) :
    Logged CommandError (Backend × Settings) := do
  let backend ← Logged.ofExcept ((Registry.defaults.get c.tag).mapError .build)
  Logged.record (.usingBackend c.tag)
  let settings ← Logged.ofExcept (c.readSettings r read isFile)
  return (backend, settings)

/-- The text that the command writes, from the files that it sees. There is no result when the load
of the schema never ends. -/
def compile (c : Command) (r : DocumentReader) (g : Module.Grammar) (read : View)
    (isFile : Path → Bool) : Option (Logged CommandError String) :=
  (c.prepare r read isFile).bindPartial fun (backend, settings) => do
    let loaded ← WireSchema.load? r read c.input
    return do
      let schema ← loaded.mapError (.load c.input)
      (backend.emit g schema settings).mapError .build

/-- What a run of the command leaves behind. -/
structure Report where
  log : List Record
  outcome : Except CommandError Unit
  disk : Disk

/-- Write what was compiled. -/
def finish (c : Command) (d : Disk) (compiled : Logged CommandError String) : Report :=
  match compiled.outcome with
  | .error e => { log := compiled.log, outcome := .error e, disk := d }
  | .ok text =>
    match d.write c.output text with
    | .error e => { log := compiled.log, outcome := .error (.write c.output e), disk := d }
    | .ok d' =>
      { log := compiled.log ++ [.wrote c.output.text], outcome := .ok (), disk := d' }

/-- Run the command. There is no report when the load of the schema never ends. -/
def run (c : Command) (r : DocumentReader) (g : Module.Grammar) (d : Disk) : Option Report :=
  (c.compile r g d.read d.isFile).map (c.finish d)

end Command

end WireSchema
