import WireSchema.Text.Blank
import WireSchema.Text.Search

/-!
# The type of a field, read from its text

A field's type is written as an optional scalar name, an optional parameter in angle brackets, an
optional array mark `[]` and any number of pointer marks `*`, such as `int`, `Foo[]`, `Bar**` or
`List<Foo>`. Reading never fails: a text that does not have this form is read as far as its marks
go.

The scalar is recognised in one of two ways. `Matching.substring` takes the first scalar of
`Scalar.all` that occurs anywhere in the text, so `Point` is read as an `int` and `unsigned int`
as an `int` too; `Matching.token` compares all the words before the first mark with the name of a
scalar.

## Main definitions

* `Scalar`: the values that a serializer reads and writes directly.
* `Matching`: the two ways to recognise a scalar.
* `FieldType`, `FieldType.read`: a type text taken apart.
* `FieldType.base`, `FieldType.reference`, `FieldType.scalarSpelling`: its spellings.
* `FieldKind`, `FieldType.kind`: the four cases that emitted code distinguishes.
-/

namespace WireSchema

/-- A value that a serializer reads and writes directly. -/
inductive Scalar
  | long
  | unsignedLong
  | int
  | unsignedInt
  | short
  | unsignedShort
  | char
  | unsignedChar
  | float
  | string
  deriving DecidableEq, Repr

namespace Scalar

/-- The scalars in the order in which `Matching.substring` tries them. -/
def all : List Scalar :=
  [long, unsignedLong, int, unsignedInt, short, unsignedShort, char, unsignedChar, float, string]

/-- The name of a scalar in a type text. -/
def name : Scalar → String
  | long => "long"
  | unsignedLong => "unsigned long"
  | int => "int"
  | unsignedInt => "unsigned int"
  | short => "short"
  | unsignedShort => "unsigned short"
  | char => "char"
  | unsignedChar => "unsigned char"
  | float => "float"
  | string => "String"

/-- The scalar of a given name. -/
def named? (text : List Char) : Option Scalar :=
  all.find? fun s => s.name.toList == text

end Scalar

/-- How the scalar of a type text is recognised. -/
inductive Matching
  /-- The first scalar whose name occurs anywhere in the text. -/
  | substring
  /-- The scalar named by all the words before the first mark. -/
  | token
  deriving DecidableEq, Repr, Inhabited

namespace Matching

/-- The name of a matching mode in the settings. -/
def name : Matching → String
  | substring => "substring"
  | token => "token"

/-- The text without the first occurrence of the first scalar that occurs in it. -/
def substringMatch (raw : List Char) : Option Scalar × List Char :=
  match Scalar.all.find? fun s => Text.contains s.name.toList raw with
  | some s => (some s, Text.eraseFirst s.name.toList raw)
  | none => (none, raw)

/-- Does the character begin the marks of a type text? -/
def isMark (c : Char) : Bool :=
  c == '<' || c == '[' || c == '*'

/-- The text from its first mark on, if the words before that mark name a scalar. -/
def tokenMatch (raw : List Char) : Option Scalar × List Char :=
  match Scalar.named? (Text.normalize (raw.takeWhile (!isMark ·))) with
  | some s => (some s, raw.dropWhile (!isMark ·))
  | none => (none, raw)

/-- The scalar recognised in a type text, and the text without it. -/
def recognise : Matching → List Char → Option Scalar × List Char
  | substring => substringMatch
  | token => tokenMatch

end Matching

/-- The four kinds of field, each with its own code in every emitted routine. -/
inductive FieldKind
  /-- A heap array with a one-byte element count on the wire. -/
  | array
  /-- A scalar, handled by the serializer itself. -/
  | builtin
  /-- A nested value stored in place. -/
  | nested
  /-- A nested value behind one or more pointers, allocated on demand. -/
  | pointer
  deriving DecidableEq, Repr

/-- A type text taken apart. -/
structure FieldType where
  /-- The text as it was written. -/
  written : String
  /-- The scalar recognised in it. -/
  scalar : Option Scalar
  /-- The text between the first pair of angle brackets, unless it is empty. -/
  parameter : Option String
  /-- Is there an array mark? -/
  isArray : Bool
  /-- The number of pointer marks. -/
  depth : Nat
  /-- What is left of the text without the scalar, the brackets and the marks. -/
  stem : String
  deriving DecidableEq, Repr

namespace FieldType

/-- The mark of an array. -/
def arrayMark : List Char := ['[', ']']

/-- The mark of a pointer. -/
def pointerMark : Char := '*'

/-- The parameter of a type text and the text without the angle brackets around it. Brackets
around nothing are removed as well, but give no parameter. -/
def splitParameter (text : List Char) : Option (List Char) × List Char :=
  match Text.cutBracketed '<' '>' text with
  | some (before, inner, after) =>
    (if inner.isEmpty then none else some inner, before ++ after)
  | none => (none, text)

/-- Read a type text. -/
def read (matching : Matching) (raw : String) : FieldType :=
  let (scalar, text) := matching.recognise raw.toList
  let (parameter, text) := splitParameter text
  let isArray := Text.contains arrayMark text
  let text := Text.eraseFirst arrayMark text
  { written := raw
    scalar
    parameter := parameter.map String.ofList
    isArray
    depth := text.count pointerMark
    stem := String.ofList (text.filter (· != pointerMark)) }

/-- Was a scalar recognised? -/
def isBuiltin (t : FieldType) : Bool :=
  t.scalar.isSome

/-- The name of the type that the marks are applied to. -/
def base (t : FieldType) : String :=
  match t.parameter, t.scalar with
  | some p, _ => t.stem ++ "<" ++ p ++ ">"
  | none, some s => s.name
  | none, none => String.ofList (Text.trim t.stem.toList)

/-- A row of `n` pointer marks. -/
def stars (n : Nat) : String :=
  String.ofList (List.replicate n pointerMark)

/-- The base name followed by the pointer marks. -/
def reference (t : FieldType) : String :=
  t.base ++ stars t.depth

/-- Can a value of the type own heap memory? -/
def disposable (t : FieldType) : Bool :=
  t.isArray || 0 < t.depth

/-- The kind of field, where a scalar counts before an array and an array before a pointer. -/
def kind (t : FieldType) : FieldKind :=
  if t.isBuiltin then .builtin
  else if t.isArray then .array
  else if 0 < t.depth then .pointer
  else .nested

/-- The written text without its array mark and pointer marks, its words separated by single
spaces. -/
def scalarSpelling (t : FieldType) : String :=
  String.ofList <| Text.normalize <|
    (Text.eraseFirst arrayMark t.written.toList).filter (· != pointerMark)

end FieldType

end WireSchema
