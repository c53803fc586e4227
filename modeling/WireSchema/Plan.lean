import WireSchema.BuildError
import WireSchema.Settings
import WireSchema.TagMap

/-!
# Plans

A plan is what all backends emit from: the objects with their fields, and the messages with the
fields that their histories leave, each with its type taken apart. Two messages with one tag are
planned like any others, and the repetition is recorded in the log.

## Main definitions

* `PlannedField`, `PlannedObject`, `PlannedMessage`, `Plan`.
* `Plan.make`: the plan of a schema.
* `Plan.tagCounts`, `Plan.duplicateTags`: the messages of each tag, and the tags that two or more of
  them have.
-/

namespace WireSchema

/-- The member of a message in which its wire version is kept. -/
def versionMember : String := "ver"

/-- A field with its type taken apart. -/
structure PlannedField where
  name : String
  index : Nat
  type : FieldType
  deriving DecidableEq, Repr

/-- Plan a field. -/
def PlannedField.make (matching : Matching) (name : String) (index : Nat) (type : String) :
    PlannedField :=
  { name, index, type := FieldType.read matching type }

/-- The kind of a planned field. -/
def PlannedField.kind (f : PlannedField) : FieldKind :=
  f.type.kind

/-- Can the field own heap memory? -/
def PlannedField.disposable (f : PlannedField) : Bool :=
  f.type.disposable

/-- An object with planned fields. -/
structure PlannedObject where
  name : String
  fields : List PlannedField
  deriving DecidableEq, Repr

/-- Plan an object. Its fields keep their order, and their places are their indices. -/
def PlannedObject.make (matching : Matching) (o : Object) : PlannedObject :=
  { name := o.name
    fields := o.fields.zipIdx.map fun (f, index) => .make matching f.name index f.type }

/-- A message with the fields that its history leaves. -/
structure PlannedMessage where
  id : UInt8
  name : String
  version : UInt8
  fields : List PlannedField
  deriving DecidableEq, Repr

/-- Plan a message. No field may be called `versionMember`. -/
def PlannedMessage.make (s : GenerateSettings) (m : Message) :
    Logged BuildError PlannedMessage := do
  let resolved ← (m.resolveWith s.policy).mapError .unknownChange
  if (resolved.get? versionMember).isSome then
    Logged.fail (.reservedField m.name versionMember)
  else
    Logged.record (.replayed m.name resolved.version resolved.size)
    return {
      id := m.id
      name := m.name
      version := resolved.version
      fields := resolved.fields.map fun f => .make s.matching f.name f.index f.type }

/-- A schema with all that a backend needs. -/
structure Plan where
  objects : List PlannedObject := []
  messages : List PlannedMessage := []
  deriving DecidableEq, Repr

/-- Record that a message has the tag of the message `earlier`. -/
def recordReuse (earlier : Option String) (m : Message) : Logged BuildError Unit :=
  match earlier with
  | some name => Logged.record (.tagReused m.name m.id name)
  | none => pure ()

/-- Plan messages in order. The map `seen` has the names of the messages that took the tags so
far. -/
def planMessages (s : GenerateSettings) (seen : TagMap String) :
    List Message → Logged BuildError (List PlannedMessage)
  | [] => pure []
  | m :: ms => do
    let (earlier, seen) := seen.insert m.id m.name
    recordReuse earlier m
    let planned ← PlannedMessage.make s m
    let others ← planMessages s seen ms
    return planned :: others

namespace Plan

/-- The plan of a schema. -/
def make (d : Definitions) (s : GenerateSettings) : Logged BuildError Plan := do
  let messages ← planMessages s .empty d.messages
  return { objects := d.objects.map (PlannedObject.make s.matching), messages }

/-- The number of messages that have each tag. -/
def tagCounts (p : Plan) : TagMap Nat :=
  p.messages.foldl (fun counts m => counts.update m.id fun n => n.getD 0 + 1) .empty

/-- The tags that two or more messages have, in ascending order. -/
def duplicateTags (p : Plan) : List UInt8 :=
  p.tagCounts.entries.filterMap fun entry => if 1 < entry.2 then some entry.1 else none

end Plan

end WireSchema
