import WireSchema.Files.Disk
import WireSchema.Log
import WireSchema.Schema.Document

/-!
# Loading a schema from files

A schema file may include others. All are looked for in the directory of the first file, and they
are read in the order in which they are found: first that file, then what it includes, then what
those include. A file that is included twice is read twice. Nothing keeps files from including each
other, and then the load never ends.

## Main definitions

* `SchemaFile.parse`: the declarations written by a text.
* `LoadError`: why a schema cannot be loaded.
* `resolveInclude`: where an included file is looked for.
* `DocumentReader.loadQueue`: the loop that reads the files still to be read.
* `load?`, `Disk.load?`: a schema from its first file.
-/

namespace WireSchema

/-- The declarations that a text makes. -/
def SchemaFile.parse (r : DocumentReader) (text : String) : Except String SchemaFile :=
  r.parse (SchemaFile.ofValue? .toml) r.noSchema text

/-- Why a schema cannot be loaded. -/
inductive LoadError
  /-- A file cannot be read. -/
  | unreadable (path : Path) (cause : FileError)
  /-- A file is no schema file, for the cause that its reader gives. -/
  | unparsable (path : Path) (cause : String)
  deriving DecidableEq, Repr

/-- The text of an error. -/
def LoadError.text : LoadError → String
  | unreadable path cause => s!"cannot read schema file '{path.text}': {cause.text}"
  | unparsable path cause => s!"cannot parse schema file '{path.text}': {cause}"

/-- Where an included file is looked for: below the directory of the first file, unless its path
leads there already. -/
def resolveInclude (dir p : Path) : Path :=
  if p.startsWith dir then p else dir.join p

/-- The schema file at a path. -/
def readSchema (r : DocumentReader) (read : View) (p : Path) : Except LoadError SchemaFile :=
  match read p with
  | .error cause => .error (.unreadable p cause)
  | .ok text => (SchemaFile.parse r text).mapError (.unparsable p)

/-- The paths of the files that a schema file includes. -/
def SchemaFile.includedPaths (dir : Path) (f : SchemaFile) : List Path :=
  f.includes.map fun text => resolveInclude dir ⟨text⟩

/-- Read the files of a queue in order, after the records `log` were made and the declarations
`merged` were found. What a file includes goes to the end of the queue. There is no result when
the queue never becomes empty. -/
def DocumentReader.loadQueue (r : DocumentReader) (read : View) (dir : Path) (queue : List Path)
    (log : List Record) (merged : Definitions) : Option (Logged LoadError Definitions) :=
  match queue with
  | [] => some ⟨log, .ok merged⟩
  | p :: rest =>
    match readSchema r read p with
    | .error e => some ⟨log ++ [.loading p.text], .error e⟩
    | .ok file =>
      r |>.loadQueue read dir (rest ++ file.includedPaths dir) (log ++ [.loading p.text])
        (merged ++ file.definitions)
partial_fixpoint

/-- Load the schema with a given first file. There is no result when the load never ends. -/
def load? (r : DocumentReader) (read : View) (root : Path) :
    Option (Logged LoadError Definitions) :=
  r.loadQueue read root.directory [resolveInclude root.directory root] [] {}

/-- Load a schema from a disk. -/
def Disk.load? (d : Disk) (r : DocumentReader) (root : Path) :
    Option (Logged LoadError Definitions) :=
  WireSchema.load? r d.read root

end WireSchema
