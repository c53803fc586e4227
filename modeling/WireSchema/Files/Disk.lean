import WireSchema.Files.Path

/-!
# Disks

A disk is a finite set of files below the current directory. A path is followed from there piece
by piece, and every piece needs a directory to start from. What lies above the current directory,
and below the root, is not known: only the directories themselves are there.

## Main definitions

* `FileError`: why a file cannot be read or written.
* `View`: what a reader sees of the files.
* `Disk`, `Disk.isFile`, `Disk.read`, `Disk.write`.
-/

namespace WireSchema

/-- Why a file cannot be read or written. -/
inductive FileError
  /-- The path holds a character that no file name can have. -/
  | badName
  /-- There is nothing at the path. -/
  | notFound
  /-- The path leads through a file. -/
  | notDirectory
  /-- There is a directory at the path. -/
  | isDirectory
  /-- The file may not be read, or may not be written or made. -/
  | permissionDenied
  /-- The contents are not text. -/
  | notText
  deriving DecidableEq, Repr

/-- The text of an error. -/
def FileError.text : FileError → String
  | badName => "file name contained an unexpected NUL byte"
  | notFound => "No such file or directory (os error 2)"
  | notDirectory => "Not a directory (os error 20)"
  | isDirectory => "Is a directory (os error 21)"
  | permissionDenied => "Permission denied (os error 13)"
  | notText => "stream did not contain valid UTF-8"

/-- What a reader sees of the files: the text at a path, or why there is none. -/
abbrev View := Path → Except FileError String

/-- The names that lead to a file from the current directory. The name `..` leads up, and the name
`/` to the root. -/
abbrev Location := List (List Char)

namespace Location

/-- The root of the file system. -/
def root : Location := [['/']]

/-- Is the location the current directory, a directory above it, or the root? -/
def isFixed (l : Location) : Bool :=
  l.all (· == Path.dots) || l == root

/-- The directory around a location. -/
def up (l : Location) : Location :=
  if l == root then root
  else if l.all (· == Path.dots) then l ++ [Path.dots]
  else l.dropLast

end Location

/-- The files and the directories below the current directory. The directories around a file or a
directory need not be listed. -/
structure Disk where
  files : List (Location × ByteArray) := []
  directories : List Location := []
  /-- The files that may not be read. -/
  unreadable : List Location := []
  /-- The files that may not be written, and the directories in which no file may be made. -/
  unwritable : List Location := []

namespace Disk

/-- The contents of the file at a location. -/
def contents? (d : Disk) (l : Location) : Option ByteArray :=
  d.files.lookup l

/-- Is there a directory at a location? -/
def isDirectory (d : Disk) (l : Location) : Bool :=
  l.isFixed ||
    (d.contents? l).isNone &&
      (d.files.map Prod.fst ++ d.directories).any fun entry => l.isPrefixOf entry

/-- Follow one piece of a path. -/
def step (d : Disk) (l : Location) (piece : List Char) : Except FileError Location :=
  if !d.isDirectory l then .error .notDirectory
  else if Path.isSilent piece then .ok l
  else if piece == Path.dots then .ok l.up
  else if d.isDirectory (l ++ [piece]) || (d.contents? (l ++ [piece])).isSome then
    .ok (l ++ [piece])
  else .error .notFound

/-- Follow the pieces of a path. -/
def follow (d : Disk) (l : Location) (pieces : List (List Char)) : Except FileError Location :=
  pieces.foldlM d.step l

/-- The location where a path starts. -/
def start (p : Path) : Location :=
  if p.isAbsolute then Location.root else []

/-- Refuse a path that no file can have. -/
def checkName (p : Path) : Except FileError Unit :=
  if p.text.toList.contains '\x00' then .error .badName
  else if p.text.isEmpty then .error .notFound
  else .ok ()

/-- The location at a path. -/
def locate (d : Disk) (p : Path) : Except FileError Location := do
  checkName p
  d.follow (start p) p.pieces

/-- Is there a file at a path, whether it may be read or not? -/
def isFile (d : Disk) (p : Path) : Bool :=
  match d.locate p with
  | .ok l => (d.contents? l).isSome
  | .error _ => false

/-- The text at a path. -/
def read (d : Disk) : View := fun p => do
  let l ← d.locate p
  match d.contents? l with
  | none => .error .isDirectory
  | some bytes =>
    if d.unreadable.contains l then .error .permissionDenied
    else
      match String.fromUTF8? bytes with
      | some text => .ok text
      | none => .error .notText

/-! ### Writing -/

/-- The location where a file at a path is or can be made. The directory around it has to be
there, and the path has to end in a name. -/
def target (d : Disk) (p : Path) : Except FileError Location := do
  checkName p
  let named := (p.pieces.reverse.dropWhile List.isEmpty).reverse
  let around ← d.follow (start p) named.dropLast
  if !d.isDirectory around then .error .notDirectory
  else
    match named.getLast? with
    | none => .error .isDirectory
    | some name =>
      if named.length < p.pieces.length || name == Path.dot || name == Path.dots
          || d.isDirectory (around ++ [name]) then
        .error .isDirectory
      else .ok (around ++ [name])

/-- Set the contents of the file at a location. -/
def setContents (d : Disk) (l : Location) (bytes : ByteArray) : Disk :=
  if (d.contents? l).isSome then
    { d with files := d.files.map fun (k, old) => (k, if k == l then bytes else old) }
  else { d with files := d.files ++ [(l, bytes)] }

/-- May the file at a location not be written or made? -/
def deniesWrite (d : Disk) (l : Location) : Bool :=
  d.unwritable.contains (if (d.contents? l).isSome then l else l.dropLast)

/-- Write a text to the file at a path. -/
def write (d : Disk) (p : Path) (text : String) : Except FileError Disk := do
  let l ← d.target p
  if d.deniesWrite l then throw .permissionDenied
  return d.setContents l text.toUTF8

/-- Make a directory at a location. -/
def addDirectory (d : Disk) (l : Location) : Disk :=
  { d with directories := d.directories ++ [l] }

/-- The location of a path that leads down by names only. -/
def plainLocation? (p : Path) : Option Location :=
  let names := p.pieces.filter (!Path.isSilent ·)
  if p.anchor.isEmpty && !names.isEmpty && !names.contains Path.dots then some names else none

end Disk

end WireSchema
