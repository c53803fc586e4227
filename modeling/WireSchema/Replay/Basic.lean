import WireSchema.Log
import WireSchema.Replay.SlotTable

/-!
# Replaying the history of a message

The replay of a history gives the fields that a message has in the end, in the order in which
they go over the wire, and the version that it has reached. A change of a field that is not live
is answered by a policy: the field is inserted at index 0 and a record is made, or the replay
fails.

## Main definitions

* `FieldSet`: the fields and the version after a replay.
* `ChangePolicy`: the two answers to a change of a field that is not live.
* `Message.resolve`, `Message.unknownChanges`: the replay that inserts at index 0, and the steps
  at which it does so.
* `Message.resolveStrict`: the replay that fails.
* `Message.resolveWith`: the replay under a policy, with its log.
-/

namespace WireSchema

/-- A field after the replay. -/
structure ResolvedField where
  index : Nat
  name : String
  type : String
  deriving DecidableEq, Repr

/-- The fields of a message after the replay, in wire order, and the version reached. -/
structure FieldSet where
  version : UInt8 := 0
  fields : List ResolvedField := []
  deriving DecidableEq, Repr

namespace FieldSet

/-- The first field of a given name. -/
def get? (s : FieldSet) (name : String) : Option ResolvedField :=
  s.fields.find? (·.name == name)

/-- The names of the fields, in order. -/
def names (s : FieldSet) : List String :=
  s.fields.map (·.name)

/-- The number of fields. -/
def size (s : FieldSet) : Nat :=
  s.fields.length

/-- Are there no fields? -/
def isEmpty (s : FieldSet) : Bool :=
  s.fields.isEmpty

end FieldSet

/-- What a change of a field that is not live does. -/
inductive ChangePolicy
  /-- It inserts the field at index 0 and leaves the next index as it is. -/
  | zeroIndex
  /-- It is an error. -/
  | reject
  deriving DecidableEq, Repr, Inhabited

/-- The name of a policy in the settings. -/
def ChangePolicy.name : ChangePolicy → String
  | zeroIndex => "zero-index"
  | reject => "reject"

/-- A change of a field that is not live. -/
structure UnknownChange where
  message : String
  field : String
  major : UInt8
  minor : UInt8
  deriving DecidableEq, Repr

/-- The text of the error. -/
def UnknownChange.text (e : UnknownChange) : String :=
  s!"message '{e.message}' version {versionLabel e.major e.minor} changes field '{e.field}' " ++
    "which was never added"

namespace SlotTable

/-- Perform an operation; a change of a field that is not live inserts it at index 0. -/
def perform (t : SlotTable) : Operation → SlotTable
  | .add name type => (t.add name type).2
  | .remove name => (t.remove name).2
  | .change name type => (t.change name type).getD (t.insertAt name 0 type)

/-- Does the operation change a field that is not live? -/
def misses (t : SlotTable) : Operation → Bool
  | .change name _ => (t.position? name).isNone
  | _ => false

/-- Perform the operations of all steps. -/
def replay (t : SlotTable) (steps : List Step) : SlotTable :=
  steps.foldl (fun t s => t.perform s.operation) t

/-- The steps of a replay that change a field that is not live. -/
def missesOf (t : SlotTable) : List Step → List Step
  | [] => []
  | s :: steps =>
    let later := (t.perform s.operation).missesOf steps
    if t.misses s.operation then s :: later else later

/-- Perform the operations of all steps, up to the first change of a field that is not live. -/
def replayStrict (t : SlotTable) : List Step → Except Step SlotTable
  | [] => .ok t
  | s :: steps =>
    match s.operation with
    | .add name type => (t.add name type).2.replayStrict steps
    | .remove name => (t.remove name).2.replayStrict steps
    | .change name type =>
      match t.change name type with
      | some t => t.replayStrict steps
      | none => .error s

/-- The live fields of a table. -/
def fields (t : SlotTable) : List ResolvedField :=
  t.liveSlots.map fun s => ⟨s.index, s.name, s.type⟩

end SlotTable

namespace Message

/-- Replay a message; a change of a field that is not live inserts it at index 0. -/
def resolve (m : Message) : FieldSet :=
  { version := m.latestMajor, fields := (SlotTable.empty.replay m.history).fields }

/-- The steps at which `Message.resolve` inserts a field at index 0. -/
def unknownChanges (m : Message) : List Step :=
  SlotTable.empty.missesOf m.history

/-- Replay a message; a change of a field that is not live is an error. -/
def resolveStrict (m : Message) : Except UnknownChange FieldSet :=
  match SlotTable.empty.replayStrict m.history with
  | .ok t => .ok { version := m.latestMajor, fields := t.fields }
  | .error s =>
    .error { message := m.name, field := s.operation.name, major := s.major, minor := s.minor }

/-- Replay a message under a policy. -/
def resolveWith (m : Message) : ChangePolicy → Logged UnknownChange FieldSet
  | .zeroIndex =>
    ⟨m.unknownChanges.map fun s => .unknownChange s.label s.operation.name, .ok m.resolve⟩
  | .reject => .ofExcept m.resolveStrict

end Message

end WireSchema
