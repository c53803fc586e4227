import WireSchema.Files.Disk
import WireSchema.Settings

/-!
# Settings from files

Settings are read from a named file, or from the file of the usual name in a directory, if there
is one.

## Main definitions

* `SettingsError`: why settings cannot be read.
* `Settings.parse`, `Settings.ofFile`, `Settings.discover`: settings from a text, a file and a
  directory.
-/

namespace WireSchema

/-- Why settings cannot be read. -/
inductive SettingsError
  /-- The file cannot be read. -/
  | unreadable (path : Path) (cause : FileError)
  /-- The text is no settings document, for the cause that its reader gives. -/
  | invalid (cause : String)
  deriving DecidableEq, Repr

/-- The text of an error. -/
def SettingsError.text : SettingsError → String
  | unreadable path cause => s!"cannot read config file '{path.text}': {cause.text}"
  | invalid cause => s!"invalid config: {cause}"

namespace Settings

/-- The settings written by a text. -/
def parse (r : DocumentReader) (text : String) : Except String Settings :=
  r.parse (ofValue? .toml) r.noSettings text

/-- The settings in a file. -/
def ofFile (r : DocumentReader) (read : View) (p : Path) : Except SettingsError Settings :=
  match read p with
  | .error cause => .error (.unreadable p cause)
  | .ok text => (parse r text).mapError .invalid

/-- The settings file of a directory. -/
def candidate (dir : Path) : Path :=
  dir.join ⟨fileName⟩

/-- The settings in the settings file of a directory, or the defaults if there is no such file. -/
def discover (r : DocumentReader) (read : View) (isFile : Path → Bool) (dir : Path) :
    Except SettingsError Settings :=
  if isFile (candidate dir) then ofFile r read (candidate dir) else .ok {}

end Settings

end WireSchema
