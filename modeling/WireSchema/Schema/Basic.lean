/-!
# Schemas

A schema declares *objects*, plain value types, and *messages*, whose fields change from one
version to the next. The history of a message is a list of deltas, each of which adds, removes
and retypes fields.

## Main definitions

* `FieldSpec`, `RemoveSpec`, `ChangeSpec`: the three kinds of entry in a delta.
* `VersionDelta`: one step of a message's history.
* `Object`, `Message`: the declarations of a schema.
* `Definitions`: all declarations of a schema, in order.
-/

namespace WireSchema

/-- A field that is added to a message or belongs to an object. -/
structure FieldSpec where
  name : String
  /-- The type text. -/
  type : String
  /-- A default that a schema may record; nothing is emitted for it. -/
  default : Option String := none
  deriving DecidableEq, Repr

/-- A field that is removed from a message. -/
structure RemoveSpec where
  name : String
  /-- A default that a schema may record; nothing is emitted for it. -/
  default : Option String := none
  deriving DecidableEq, Repr

/-- A field whose type changes. -/
structure ChangeSpec where
  name : String
  /-- The new type text. -/
  type : String
  deriving DecidableEq, Repr

/-- One step of the history of a message. -/
structure VersionDelta where
  major : UInt8
  minor : UInt8 := 0
  add : List FieldSpec := []
  remove : List RemoveSpec := []
  change : List ChangeSpec := []
  deriving DecidableEq, Repr

/-- A version as text, such as `2.1`. -/
def versionLabel (major minor : UInt8) : String :=
  toString major.toNat ++ "." ++ toString minor.toNat

/-- The version of a delta as text. -/
def VersionDelta.label (d : VersionDelta) : String :=
  versionLabel d.major d.minor

/-- A value type without versions. -/
structure Object where
  name : String
  fields : List FieldSpec := []
  deriving DecidableEq, Repr

/-- Add a field after all others. -/
def Object.addField (o : Object) (f : FieldSpec) : Object :=
  { o with fields := o.fields ++ [f] }

/-- A message with its history. -/
structure Message where
  /-- The one-byte tag on the wire. Two messages may share a tag. -/
  id : UInt8
  name : String
  flags : UInt32 := 0
  versions : List VersionDelta := []
  deriving DecidableEq, Repr

/-- Add a step to the end of the history. -/
def Message.extend (m : Message) (d : VersionDelta) : Message :=
  { m with versions := m.versions ++ [d] }

/-- The declarations of a schema, in order. -/
structure Definitions where
  objects : List Object := []
  messages : List Message := []
  deriving DecidableEq, Repr, Inhabited

namespace Definitions

/-- The declarations of two schemas, one after the other. -/
def append (a b : Definitions) : Definitions :=
  { objects := a.objects ++ b.objects, messages := a.messages ++ b.messages }

instance : Append Definitions := ⟨append⟩

/-- Declare an object after all others. -/
def addObject (d : Definitions) (o : Object) : Definitions :=
  { d with objects := d.objects ++ [o] }

/-- Declare a message after all others. -/
def addMessage (d : Definitions) (m : Message) : Definitions :=
  { d with messages := d.messages ++ [m] }

/-- Add a step to the history of the first message of a given name. -/
def extendMessage (d : Definitions) (name : String) (step : VersionDelta) : Definitions :=
  { d with messages := d.messages.modify (d.messages.findIdx (·.name == name)) (·.extend step) }

/-- Add a field to the last object, if there is one. -/
def extendLastObject (d : Definitions) (f : FieldSpec) : Definitions :=
  { d with objects := d.objects.modify (d.objects.length - 1) (·.addField f) }

/-- The first message of a given name. -/
def message? (d : Definitions) (name : String) : Option Message :=
  d.messages.find? (·.name == name)

/-- The first object of a given name. -/
def object? (d : Definitions) (name : String) : Option Object :=
  d.objects.find? (·.name == name)

/-- Does the schema declare nothing? -/
def isEmpty (d : Definitions) : Bool :=
  d.objects.isEmpty && d.messages.isEmpty

end Definitions

end WireSchema
