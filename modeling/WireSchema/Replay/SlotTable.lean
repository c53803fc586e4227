import WireSchema.Schema.History

/-!
# The slot table of a replay

While a history is replayed, its fields live in the slots of a table. An addition appends a slot
under the next index; a removal leaves its slot in place as a tombstone, so that no index is used
twice. A map from names to positions finds the live slot of a field.

## Main definitions

* `Slot`, `SlotTable`: the slots, the positions of the live ones, and the next index.
* `SlotTable.add`, `SlotTable.remove`, `SlotTable.change`, `SlotTable.insertAt`: the operations
  of a replay.
* `SlotTable.liveSlots`: the live slots in ascending order of their indices.
-/

namespace WireSchema

/-- A field that was added at some point of the replay. -/
structure Slot where
  name : String
  index : Nat
  type : String
  /-- Is the slot a tombstone? -/
  removed : Bool := false
  deriving DecidableEq, Repr

/-- The slots of a replay. -/
structure SlotTable where
  /-- Every slot that was ever made, in order. -/
  slots : List Slot := []
  /-- The position of the live slot of each live field. -/
  live : List (String × Nat) := []
  /-- The index that the next addition takes. -/
  nextIndex : Nat := 0
  deriving DecidableEq, Repr

namespace SlotTable

/-- The table before the first operation. -/
def empty : SlotTable := {}

/-- The position of the live slot of a field. -/
def position? (t : SlotTable) (name : String) : Option Nat :=
  t.live.lookup name

/-- Turn the live slot of a field into a tombstone, and say whether there was one. -/
def remove (t : SlotTable) (name : String) : Bool × SlotTable :=
  match t.position? name with
  | some pos =>
    (true,
      { t with
        slots := t.slots.modify pos fun s => { s with removed := true }
        live := t.live.filter fun entry => entry.1 != name })
  | none => (false, t)

/-- Append a live slot under a given index, in place of the live slot of the same name. -/
def insertAt (t : SlotTable) (name : String) (index : Nat) (type : String) : SlotTable :=
  let t := (t.remove name).2
  { t with
    slots := t.slots ++ [{ name, index, type }]
    live := (name, t.slots.length) :: t.live }

/-- Append a live slot under the next index, and give the index out. -/
def add (t : SlotTable) (name type : String) : Nat × SlotTable :=
  (t.nextIndex, { t.insertAt name t.nextIndex type with nextIndex := t.nextIndex + 1 })

/-- Give the live slot of a field a new type; nothing if the field is not live. -/
def change (t : SlotTable) (name type : String) : Option SlotTable :=
  (t.position? name).map fun pos =>
    { t with slots := t.slots.modify pos fun s => { s with type } }

/-- The live slots in ascending order of their indices; slots of one index keep the order in
which they were made. -/
def liveSlots (t : SlotTable) : List Slot :=
  (t.slots.filter (!·.removed)).mergeSort fun a b => a.index ≤ b.index

end SlotTable

end WireSchema
