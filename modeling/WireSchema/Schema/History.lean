import WireSchema.Schema.Basic

/-!
# The history of a message as one sequence of operations

Replaying a message goes through its deltas in order and, within a delta, through its additions,
then its removals, then its changes. `Message.history` lists all of these operations, each with
the delta that it belongs to.

## Main definitions

* `Operation`: an addition, a removal or a change of one field.
* `VersionDelta.operations`, `Message.history`: the operations in the order of the replay.
* `Message.latestMajor`: the wire version that a message reaches.
-/

namespace WireSchema

/-- What an entry of a delta does to one field. -/
inductive Operation
  | add (name type : String)
  | remove (name : String)
  | change (name type : String)
  deriving DecidableEq, Repr

/-- The field that an operation mentions. -/
def Operation.name : Operation → String
  | add n _ => n
  | remove n => n
  | change n _ => n

/-- The additions of a delta, then its removals, then its changes. -/
def VersionDelta.operations (d : VersionDelta) : List Operation :=
  d.add.map (fun f => .add f.name f.type) ++
    d.remove.map (fun r => .remove r.name) ++
    d.change.map (fun c => .change c.name c.type)

/-- An operation together with the version that performs it. -/
structure Step where
  major : UInt8
  minor : UInt8
  operation : Operation
  deriving DecidableEq, Repr

/-- The version of a step as text. -/
def Step.label (s : Step) : String :=
  versionLabel s.major s.minor

/-- The steps of a delta. -/
def VersionDelta.steps (d : VersionDelta) : List Step :=
  d.operations.map fun op => ⟨d.major, d.minor, op⟩

/-- The steps of a message's history, in the order of the replay. -/
def Message.history (m : Message) : List Step :=
  m.versions.flatMap VersionDelta.steps

/-- The greatest major version of a message, and 0 for a message without history. -/
def Message.latestMajor (m : Message) : UInt8 :=
  m.versions.foldl (fun v d => max v d.major) 0

end WireSchema
