import WireSchema.Plan

/-!
# Data members of emitted C++ classes

A field becomes a data member, and an array field a second one that holds its number of items.
The declarations, the parameters of the constructors and their initialisers are all read off
these members.

## Main definitions

* `Header.Member`: a data member.
* `Header.memberType`: the type of the member of a field.
* `Header.members`: the members of a field.
-/

namespace WireSchema.Header

/-- A data member. -/
structure Member where
  type : String
  name : String
  /-- Is zero its first value? Otherwise its type gives the first value. -/
  zeroed : Bool := true
  deriving DecidableEq, Repr

namespace Member

/-- The declaration of a member. -/
def declaration (m : Member) : String :=
  m.type ++ " " ++ m.name ++ (if m.zeroed then " = 0;" else ";")

/-- The initialiser of a member in the constructor without parameters. -/
def firstValue (m : Member) : String :=
  m.name ++ (if m.zeroed then "(0)" else "()")

/-- The parameter for a member. -/
def parameter (m : Member) : String :=
  m.type ++ " " ++ m.name

/-- The initialiser of a member from its parameter. -/
def fromParameter (m : Member) : String :=
  m.name ++ "(" ++ m.name ++ ")"

end Member

/-- The name of the member that holds the number of items of an array field. -/
def countName (field : String) : String :=
  "__" ++ field ++ "_len"

/-- The type of the member of a field. A scalar is spelled as it was written. -/
def memberType (t : FieldType) : String :=
  match t.kind with
  | .builtin => t.scalarSpelling ++ (if t.isArray then "*" else "") ++ FieldType.stars t.depth
  | .array => t.reference ++ "*"
  | .nested => t.reference
  | .pointer => t.reference

/-- The members of a field. -/
def members (f : PlannedField) : List Member :=
  match f.kind with
  | .builtin => [{ type := memberType f.type, name := f.name }]
  | .pointer => [{ type := memberType f.type, name := f.name }]
  | .nested => [{ type := memberType f.type, name := f.name, zeroed := false }]
  | .array =>
    [{ type := memberType f.type, name := f.name },
     { type := "unsigned char", name := countName f.name }]

end WireSchema.Header
