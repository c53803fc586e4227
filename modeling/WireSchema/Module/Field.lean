import WireSchema.Module.Grammar
import WireSchema.Module.Identifier
import WireSchema.Plan

/-!
# Fields of emitted Rust structs

The identifier of a field is its name in snake case. Its type is the scalar or the nested type
inside one box for each pointer mark, with a list for an array mark, and is optional unless the
field is a nested value in place.

## Main definitions

* `Module.TypeTerm`: a type with its wrappers.
* `Module.scalarType`: the type of a scalar.
* `Module.fieldTypes`: the declared type of a field and the type that is read and written for
  it.
* `Module.Field`, `Module.Field.make`: a field with its identifier and its types.
-/

namespace WireSchema.Module

/-- A type with its wrappers. -/
inductive TypeTerm
  | leaf (ts : Tokens)
  | boxed (t : TypeTerm)
  | list (t : TypeTerm)
  | optional (t : TypeTerm)
  /-- An optional list, whose closing brackets are one token. -/
  | optionalList (t : TypeTerm)
  deriving DecidableEq, Repr

/-- The beginning of the list type. -/
def listType : Tokens := path ["std", "vec", "Vec"] ++ [.word "<"]

/-- The beginning of the optional type. -/
def optionalType : Tokens := path ["core", "option", "Option"] ++ [.word "<"]

/-- The tokens of a type. -/
def TypeTerm.tokens : TypeTerm → Tokens
  | leaf ts => ts
  | boxed t => path ["std", "boxed", "Box"] ++ [.word "<"] ++ t.tokens ++ [.word ">"]
  | list t => listType ++ t.tokens ++ [.word ">"]
  | optional t => optionalType ++ t.tokens ++ [.word ">"]
  | optionalList t => optionalType ++ listType ++ t.tokens ++ [.word ">>"]

/-- A type inside `n` boxes. -/
def TypeTerm.boxes (t : TypeTerm) : (n : Nat) → TypeTerm
  | 0 => t
  | n + 1 => boxed (t.boxes n)

/-- The type of a scalar. -/
def scalarType : Scalar → Tokens
  | .char => [.word "i8"]
  | .unsignedChar => [.word "u8"]
  | .short => [.word "i16"]
  | .unsignedShort => [.word "u16"]
  | .int => [.word "i32"]
  | .unsignedInt => [.word "u32"]
  | .long => [.word "i64"]
  | .unsignedLong => [.word "u64"]
  | .float => [.word "f32"]
  | .string => path ["std", "string", "String"]

/-- The type of the scalar of a given name. -/
def scalarNamed? (name : String) : Option Tokens :=
  (Scalar.named? name.toList).map scalarType

/-- The type of a field that was read as a scalar. The written spelling counts before the scalar
that was recognised in it. -/
def builtinType (f : PlannedField) : Except BuildError Tokens :=
  match scalarNamed? f.type.scalarSpelling with
  | some ts => .ok ts
  | none =>
    match scalarNamed? f.type.base with
    | some ts => .ok ts
    | none => .error (.fieldType f.name f.type.written (.notScalar f.type.base))

/-- The type of a field that is a nested value. -/
def nestedType (g : Grammar) (f : PlannedField) : Except BuildError Tokens :=
  match g.type f.type.base with
  | .ok phrase => .ok phrase.tokens
  | .error cause => .error (.fieldType f.name f.type.written (.unreadable cause))

/-- The declared type of a field, and the type that is read and written for it: the value of a
scalar, the item of an array, the chain of boxes of a pointer, or the nested value. -/
def fieldTypes (g : Grammar) (f : PlannedField) : Except BuildError (TypeTerm × TypeTerm) :=
  match f.kind with
  | .builtin => do
    let scalar ← builtinType f
    let shaped := if f.type.isArray then TypeTerm.list (.leaf scalar) else .leaf scalar
    let value := shaped.boxes f.type.depth
    return (.optional value, value)
  | .array => do
    let item := (TypeTerm.leaf (← nestedType g f)).boxes f.type.depth
    return (.optionalList item, item)
  | .pointer => do
    let value := (TypeTerm.leaf (← nestedType g f)).boxes f.type.depth
    return (.optional value, value)
  | .nested => do
    let value := TypeTerm.leaf (← nestedType g f)
    return (value, value)

/-- A field with its identifier and its types. -/
structure Field where
  plan : PlannedField
  ident : String
  type : TypeTerm
  value : TypeTerm
  deriving Repr

/-- The identifier of a name, or the error that there is none. -/
def identifier (name : String) : Except BuildError String :=
  match identifier? name with
  | some ident => .ok ident
  | none => .error (.identifier name)

/-- The identifier and the types of a field. -/
def Field.make (g : Grammar) (f : PlannedField) : Except BuildError Field := do
  let ident ← identifier (g.snake f.name)
  let (type, value) ← fieldTypes g f
  return { plan := f, ident, type, value }

/-- The kind of a field. -/
def Field.kind (f : Field) : FieldKind :=
  f.plan.kind

end WireSchema.Module
