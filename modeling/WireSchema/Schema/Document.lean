import WireSchema.Document.Value
import WireSchema.Schema.Basic

/-!
# Schemas as documents

Reading the declarations of a schema from a document, and writing them as one. Members of a table
that the schema does not know are passed over, except at the top of a schema file.

## Main definitions

* `Definitions.ofValue?`, `Definitions.toValue`: a schema as a document.
* `SchemaFile`, `SchemaFile.ofValue?`: one file of a schema, with the files that it includes.
-/

namespace WireSchema

/-! ### Reading -/

/-- Read an added field. -/
def FieldSpec.ofValue? (format : Format) (v : Value) : Option FieldSpec := do
  let members ← v.members? format false ["name", "type", "default"]
  let name ← required? members "name" Value.text?
  let type ← required? members "type" Value.text?
  let default ← defaulted? members "default" (Value.optional? Value.text?) none
  return { name, type, default }

/-- Read a removed field. -/
def RemoveSpec.ofValue? (format : Format) (v : Value) : Option RemoveSpec := do
  let members ← v.members? format false ["name", "default"]
  let name ← required? members "name" Value.text?
  let default ← defaulted? members "default" (Value.optional? Value.text?) none
  return { name, default }

/-- Read a changed field. -/
def ChangeSpec.ofValue? (format : Format) (v : Value) : Option ChangeSpec := do
  let members ← v.members? format false ["name", "type"]
  let name ← required? members "name" Value.text?
  let type ← required? members "type" Value.text?
  return { name, type }

/-- Read one step of a history. -/
def VersionDelta.ofValue? (format : Format) (v : Value) : Option VersionDelta := do
  let members ← v.members? format false ["major", "minor", "add", "remove", "change"]
  let major ← required? members "major" Value.byte?
  let minor ← defaulted? members "minor" Value.byte? 0
  let add ← defaulted? members "add" (Value.listOf? (FieldSpec.ofValue? format)) []
  let remove ← defaulted? members "remove" (Value.listOf? (RemoveSpec.ofValue? format)) []
  let change ← defaulted? members "change" (Value.listOf? (ChangeSpec.ofValue? format)) []
  return { major, minor, add, remove, change }

/-- Read an object. -/
def Object.ofValue? (format : Format) (v : Value) : Option Object := do
  let members ← v.members? format false ["type", "add"]
  let name ← required? members "type" Value.text?
  let fields ← defaulted? members "add" (Value.listOf? (FieldSpec.ofValue? format)) []
  return { name, fields }

/-- Read a message. -/
def Message.ofValue? (format : Format) (v : Value) : Option Message := do
  let members ← v.members? format false ["id", "type", "flags", "version"]
  let id ← required? members "id" Value.byte?
  let name ← required? members "type" Value.text?
  let flags ← defaulted? members "flags" Value.word? 0
  let versions ← defaulted? members "version" (Value.listOf? (VersionDelta.ofValue? format)) []
  return { id, name, flags, versions }

/-- Read a schema. -/
def Definitions.ofValue? (format : Format) (v : Value) : Option Definitions := do
  let members ← v.members? format false ["object", "message"]
  let objects ← defaulted? members "object" (Value.listOf? (Object.ofValue? format)) []
  let messages ← defaulted? members "message" (Value.listOf? (Message.ofValue? format)) []
  return { objects, messages }

/-- One file of a schema. -/
structure SchemaFile where
  /-- The paths of the files that belong to the same schema. -/
  includes : List String := []
  definitions : Definitions := {}
  deriving DecidableEq, Repr

/-- Read a file of a schema. Its top level is closed. -/
def SchemaFile.ofValue? (format : Format) (v : Value) : Option SchemaFile := do
  let members ← v.members? format true ["include", "object", "message"]
  let includes ← defaulted? members "include" (Value.listOf? Value.text?) []
  let objects ← defaulted? members "object" (Value.listOf? (Object.ofValue? format)) []
  let messages ← defaulted? members "message" (Value.listOf? (Message.ofValue? format)) []
  return { includes, definitions := { objects, messages } }

/-! ### Writing -/

/-- The member of a default, which is left out when there is none. -/
def defaultMember : Option String → List (String × Value)
  | some d => [("default", .str d)]
  | none => []

/-- Write an added field. -/
def FieldSpec.toValue (f : FieldSpec) : Value :=
  .table ([("name", .str f.name), ("type", .str f.type)] ++ defaultMember f.default)

/-- Write a removed field. -/
def RemoveSpec.toValue (r : RemoveSpec) : Value :=
  .table ([("name", .str r.name)] ++ defaultMember r.default)

/-- Write a changed field. -/
def ChangeSpec.toValue (c : ChangeSpec) : Value :=
  .table [("name", .str c.name), ("type", .str c.type)]

/-- Write one step of a history. -/
def VersionDelta.toValue (d : VersionDelta) : Value :=
  .table
    [("major", .int d.major.toNat), ("minor", .int d.minor.toNat),
     ("add", .list (d.add.map FieldSpec.toValue)),
     ("remove", .list (d.remove.map RemoveSpec.toValue)),
     ("change", .list (d.change.map ChangeSpec.toValue))]

/-- Write an object. -/
def Object.toValue (o : Object) : Value :=
  .table [("type", .str o.name), ("add", .list (o.fields.map FieldSpec.toValue))]

/-- Write a message. -/
def Message.toValue (m : Message) : Value :=
  .table
    [("id", .int m.id.toNat), ("type", .str m.name), ("flags", .int m.flags.toNat),
     ("version", .list (m.versions.map VersionDelta.toValue))]

/-- Write a schema. -/
def Definitions.toValue (d : Definitions) : Value :=
  .table
    [("object", .list (d.objects.map Object.toValue)),
     ("message", .list (d.messages.map Message.toValue))]

end WireSchema
