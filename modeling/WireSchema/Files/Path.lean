/-!
# Paths

A path is a text whose pieces are separated by slashes. It is kept as it was written, and compared
by its components: empty pieces and pieces `.` do not count, except that a path that begins with
`.` has that as its first component, and one that begins with a slash has the root there.

## Main definitions

* `Path`, `Path.pieces`, `Path.components`.
* `Path.parent?`, `Path.directory`: the path without its last component.
* `Path.startsWith`: comparison of components.
* `Path.join`: one path below another.
-/

namespace WireSchema

/-- A path, as it was written. -/
structure Path where
  text : String
  deriving DecidableEq, Repr, Inhabited

/-- A component of a path. -/
inductive Component
  /-- The slash at the beginning of an absolute path. -/
  | root
  /-- The piece `.` at the beginning of a path. -/
  | here
  /-- A name, or the piece `..` that leads up. -/
  | name (s : List Char)
  deriving DecidableEq, Repr

namespace Path

/-- The parts of a text between its slashes. -/
def splitPieces : List Char → List (List Char)
  | [] => [[]]
  | c :: cs =>
    if c == '/' then [] :: splitPieces cs
    else
      match splitPieces cs with
      | [] => [[c]]
      | piece :: pieces => (c :: piece) :: pieces

/-- The text with given parts between its slashes. -/
def joinPieces (pieces : List (List Char)) : List Char :=
  List.intercalate ['/'] pieces

/-- The parts of a path between its slashes. -/
def pieces (p : Path) : List (List Char) :=
  splitPieces p.text.toList

/-- The piece that stays where it is. -/
def dot : List Char := ['.']

/-- The piece that leads up. -/
def dots : List Char := ['.', '.']

/-- Does a piece stay where it is? -/
def isSilent (piece : List Char) : Bool :=
  piece.isEmpty || piece == dot

/-- Does a path begin with a slash? -/
def isAbsolute (p : Path) : Bool :=
  p.text.toList.head? == some '/'

/-- The component at the beginning of a path that is no name. -/
def anchor (p : Path) : List Component :=
  if p.isAbsolute then [.root]
  else if p.pieces.head? == some dot then [.here]
  else []

/-- The components of a path. -/
def components (p : Path) : List Component :=
  p.anchor ++ (p.pieces.filter (!isSilent ·)).map .name

/-- Are the components of `base` the first components of the path? -/
def startsWith (p base : Path) : Bool :=
  base.components.isPrefixOf p.components

/-- Pieces without the silent ones at the end. -/
def dropSilentEnd (pieces : List (List Char)) : List (List Char) :=
  (pieces.reverse.dropWhile isSilent).reverse

/-- Pieces without the last one that is not silent and all after it, and without the silent ones
before it. There is no result when all are silent. -/
def parentPieces? (pieces : List (List Char)) : Option (List (List Char)) :=
  match dropSilentEnd pieces with
  | [] => none
  | kept => some (dropSilentEnd kept.dropLast)

/-- The path without its last component. The root and the empty path have none. -/
def parent? (p : Path) : Option Path :=
  if p.isAbsolute then
    (parentPieces? (p.pieces.drop 1)).map fun up => ⟨String.ofList ('/' :: joinPieces up)⟩
  else
    match p.pieces with
    | ['.'] :: rest =>
      match parentPieces? rest with
      | some up => some ⟨String.ofList (joinPieces (dot :: up))⟩
      | none => some ⟨""⟩
    | pieces => (parentPieces? pieces).map fun up => ⟨String.ofList (joinPieces up)⟩

/-- The directory that a path lies in. -/
def directory (p : Path) : Path :=
  p.parent?.getD ⟨""⟩

/-- The path `p` below `base`. An absolute path stays as it is. -/
def join (base p : Path) : Path :=
  if p.isAbsolute then p
  else if base.text.toList.getLast?.all (· == '/') then ⟨base.text ++ p.text⟩
  else ⟨base.text ++ "/" ++ p.text⟩

end Path

end WireSchema
