import Mathlib.Data.String.Basic
import Mathlib.Logic.Equiv.Basic
import Mathlib.Tactic.Common
import WireSchema.Proofs.Replay.Policies

/-!
# Replays treat names and types as opaque

A replay compares the names of fields with one another and copies their types; it looks into
neither. So a message whose fields are renamed one-to-one, and whose types are replaced in any way,
has the old fields under their new names and types, at their old indices and in their old order. The
two replays are compared step by step: their tables have the same slots up to the renaming, and
their maps find the same positions. Nothing is said about the order of the entries of a map, which
may therefore be the order of the names.

## Main definitions

* `Message.rename`: a message with other names and types.
* `SlotTable.Renamed`: tables with the same slots up to a renaming.
* `SlotTable.sortLive`, `SlotTable.replaySorted`: a table with its map in the order of the names,
  and a replay that keeps it in this order.

## Main results

* `SlotTable.Renamed.perform`, `SlotTable.Renamed.replay`: renamed tables along a replay.
* `SlotTable.Renamed.missesOf_eq`, `SlotTable.Renamed.fields_eq`: the records and the fields of
  renamed tables.
* `Message.resolveWith_rename`: the replay of a renamed message.
-/

namespace WireSchema

/-! ### Renaming -/

section Rename

variable (f g : String → String)

/-- An added field under another name and type. -/
def FieldSpec.rename (s : FieldSpec) : FieldSpec :=
  { s with name := f s.name, type := g s.type }

/-- A removed field under another name. -/
def RemoveSpec.rename (s : RemoveSpec) : RemoveSpec :=
  { s with name := f s.name }

/-- A changed field under another name and type. -/
def ChangeSpec.rename (s : ChangeSpec) : ChangeSpec :=
  { name := f s.name, type := g s.type }

/-- A delta with other names and types. -/
def VersionDelta.rename (d : VersionDelta) : VersionDelta :=
  { d with
    add := d.add.map (FieldSpec.rename f g)
    remove := d.remove.map (RemoveSpec.rename f)
    change := d.change.map (ChangeSpec.rename f g) }

/-- A message with other names and types of its fields. -/
def Message.rename (m : Message) : Message :=
  { m with versions := m.versions.map (VersionDelta.rename f g) }

/-- An operation on another field and with another type. -/
def Operation.rename : Operation → Operation
  | add name type => add (f name) (g type)
  | remove name => remove (f name)
  | change name type => change (f name) (g type)

/-- A step on another field and with another type. -/
def Step.rename (s : Step) : Step :=
  { s with operation := s.operation.rename f g }

/-- A slot under another name and type. -/
def Slot.rename (s : Slot) : Slot :=
  { s with name := f s.name, type := g s.type }

/-- A field under another name and type. -/
def ResolvedField.rename (r : ResolvedField) : ResolvedField :=
  { r with name := f r.name, type := g r.type }

/-- Fields under other names and types. -/
def FieldSet.rename (r : FieldSet) : FieldSet :=
  { r with fields := r.fields.map (ResolvedField.rename f g) }

/-- A change of another field. -/
def UnknownChange.rename (e : UnknownChange) : UnknownChange :=
  { e with field := f e.field }

theorem VersionDelta.steps_rename (d : VersionDelta) :
    (d.rename f g).steps = d.steps.map (Step.rename f g) := by
  simp [steps, operations, rename, Step.rename, Operation.rename, FieldSpec.rename,
    RemoveSpec.rename, ChangeSpec.rename, Function.comp_def]

theorem Message.history_rename (m : Message) :
    (m.rename f g).history = m.history.map (Step.rename f g) := by
  simp only [history, rename, List.flatMap_map, List.map_flatMap, VersionDelta.steps_rename]

theorem Message.latestMajor_rename (m : Message) : (m.rename f g).latestMajor = m.latestMajor := by
  simp only [latestMajor, rename, List.foldl_map]
  rfl

theorem Operation.name_rename (op : Operation) : (op.rename f g).name = f op.name := by
  cases op <;> rfl

end Rename

/-- Modifying an element before and after a map is the same, if the element is. -/
theorem map_modify_of_comm {α β : Type} {r : α → β} {h : α → α} {h' : β → β}
    (hcomm : ∀ a, r (h a) = h' (r a)) (l : List α) (i : Nat) :
    (l.modify i h).map r = (l.map r).modify i h' := by
  refine List.ext_getElem? fun j => ?_
  rw [List.getElem?_map, List.getElem?_modify, List.getElem?_modify, List.getElem?_map]
  cases l[j]? with
  | none => rfl
  | some a =>
    by_cases hij : i = j
    · simp [hij, hcomm]
    · simp [hij]

namespace SlotTable

/-! ### Renamed tables -/

/-- A table is a renamed one when it has the slots of the other one under their new names and types,
goes on with the same index, and finds the same positions under the new names. -/
structure Renamed (f g : String → String) (t t' : SlotTable) : Prop where
  slots_eq : t'.slots = t.slots.map (Slot.rename f g)
  nextIndex_eq : t'.nextIndex = t.nextIndex
  position?_eq : ∀ name, t'.position? (f name) = t.position? name

namespace Renamed

variable {f g : String → String} {t t' : SlotTable} {name type : String}

theorem empty : Renamed f g empty empty :=
  ⟨rfl, rfl, fun _ => rfl⟩

theorem remove (hf : Function.Injective f) (h : Renamed f g t t') (name : String) :
    Renamed f g (t.remove name).2 (t'.remove (f name)).2 where
  slots_eq := by
    simp only [SlotTable.remove, h.position?_eq]
    cases t.position? name with
    | none => exact h.slots_eq
    | some pos =>
      rw [h.slots_eq]
      refine (map_modify_of_comm ?_ t.slots pos).symm
      exact fun _ => rfl
  nextIndex_eq := by rw [nextIndex_remove, nextIndex_remove, h.nextIndex_eq]
  position?_eq n := by simp only [position?_remove, hf.eq_iff, h.position?_eq]

theorem insertAt (hf : Function.Injective f) (h : Renamed f g t t') (name : String) (index : Nat)
    (type : String) :
    Renamed f g (t.insertAt name index type) (t'.insertAt (f name) index (g type)) where
  slots_eq := by
    rw [slots_insertAt, slots_insertAt, (h.remove hf name).slots_eq, List.map_append]
    rfl
  nextIndex_eq := (h.remove hf name).nextIndex_eq
  position?_eq n := by
    simp only [position?_insertAt, hf.eq_iff, h.position?_eq, h.slots_eq, List.length_map]

theorem add (hf : Function.Injective f) (h : Renamed f g t t') (name type : String) :
    Renamed f g (t.add name type).2 (t'.add (f name) (g type)).2 := by
  have hinsert := h.insertAt hf name t.nextIndex type
  rw [SlotTable.add, SlotTable.add, h.nextIndex_eq]
  exact ⟨hinsert.slots_eq, rfl, hinsert.position?_eq⟩

/-- The same changes are of fields that are not live. -/
theorem misses_eq (h : Renamed f g t t') (op : Operation) :
    t'.misses (op.rename f g) = t.misses op := by
  cases op with
  | add name type => rfl
  | remove name => rfl
  | change name type => simp only [misses, Operation.rename, h.position?_eq]

/-- One operation keeps a table renamed. -/
theorem perform (hf : Function.Injective f) (h : Renamed f g t t') (op : Operation) :
    Renamed f g (t.perform op) (t'.perform (op.rename f g)) := by
  cases op with
  | add name type => exact h.add hf name type
  | remove name => exact h.remove hf name
  | change name type =>
    simp only [Operation.rename, SlotTable.perform, change, h.position?_eq]
    cases t.position? name with
    | none => exact h.insertAt hf name 0 type
    | some pos =>
      refine ⟨?_, h.nextIndex_eq, h.position?_eq⟩
      simp only [Option.map_some, Option.getD_some, h.slots_eq]
      refine (map_modify_of_comm ?_ t.slots pos).symm
      exact fun _ => rfl

/-- A whole replay keeps a table renamed. -/
theorem replay (hf : Function.Injective f) (h : Renamed f g t t') (steps : List Step) :
    Renamed f g (t.replay steps) (t'.replay (steps.map (Step.rename f g))) := by
  induction steps generalizing t t' with
  | nil => exact h
  | cons s steps ih => exact ih (h.perform hf s.operation)

/-- A whole replay makes the same records, up to the renaming. -/
theorem missesOf_eq (hf : Function.Injective f) (h : Renamed f g t t') (steps : List Step) :
    t'.missesOf (steps.map (Step.rename f g)) = (t.missesOf steps).map (Step.rename f g) := by
  induction steps generalizing t t' with
  | nil => rfl
  | cons s steps ih =>
    have hmiss : t'.misses (s.rename f g).operation = t.misses s.operation :=
      h.misses_eq s.operation
    have hlater := ih (h.perform hf s.operation)
    rw [List.map_cons, missesOf, missesOf, hmiss]
    split_ifs
    · exact congrArg (s.rename f g :: ·) hlater
    · exact hlater

/-- The fields of a renamed table are the renamed fields, in the same order. -/
theorem fields_eq (h : Renamed f g t t') : t'.fields = t.fields.map (ResolvedField.rename f g) := by
  have hlive : t'.slots.filter (!·.removed) =
      (t.slots.filter (!·.removed)).map (Slot.rename f g) := by
    rw [h.slots_eq, List.filter_map]
    rfl
  have hsorted : t'.liveSlots = t.liveSlots.map (Slot.rename f g) := by
    rw [liveSlots, liveSlots, hlive]
    refine (List.map_mergeSort ?_).symm
    exact fun _ _ _ _ => rfl
  rw [fields, fields, hsorted, List.map_map, List.map_map]
  rfl

end Renamed

/-! ### Maps in the order of the names -/

/-- The table with the entries of its map in the order of their names. -/
def sortLive (t : SlotTable) : SlotTable :=
  { t with live := t.live.mergeSort fun a b => a.1 ≤ b.1 }

/-- Perform the operations of all steps, with the map in the order of the names after each. -/
def replaySorted (t : SlotTable) (steps : List Step) : SlotTable :=
  steps.foldl (fun t s => (t.perform s.operation).sortLive) t

theorem lookup_eq_find? (l : List (String × Nat)) (name : String) :
    l.lookup name = (l.find? (·.1 == name)).map (·.2) := by
  induction l with
  | nil => rfl
  | cons entry l ih =>
    rw [List.lookup_cons, List.find?_cons, BEq.comm, ih]
    cases entry.1 == name <;> rfl

/-- The map finds the same positions in the order of the names. -/
theorem position?_sortLive (t : SlotTable) (name : String) :
    t.sortLive.position? name = t.position? name := by
  change (t.live.mergeSort fun a b => a.1 ≤ b.1).lookup name = t.live.lookup name
  rw [lookup_eq_find?, lookup_eq_find?, ← List.head?_filter, filter_mergeSort_key Prod.fst,
    List.head?_filter]

theorem Renamed.replaySorted {f g : String → String} {t t' : SlotTable}
    (hf : Function.Injective f) (h : Renamed f g t t') (steps : List Step) :
    Renamed f g (t.replay steps) (t'.replaySorted (steps.map (Step.rename f g))) := by
  induction steps generalizing t t' with
  | nil => exact h
  | cons s steps ih =>
    have hstep := h.perform hf s.operation
    have hsorted : Renamed f g (t.perform s.operation)
        (t'.perform (s.operation.rename f g)).sortLive :=
      ⟨hstep.slots_eq, hstep.nextIndex_eq, fun name =>
        (position?_sortLive _ _).trans (hstep.position?_eq name)⟩
    exact ih hsorted

end SlotTable

/-! ### Messages -/

namespace Message

variable {f : String → String} (hf : Function.Injective f) (g : String → String) (m : Message)

include hf

theorem resolve_rename : (m.rename f g).resolve = m.resolve.rename f g := by
  have hrenamed := SlotTable.Renamed.empty.replay hf (g := g) m.history
  rw [← m.history_rename] at hrenamed
  rw [resolve, hrenamed.fields_eq, latestMajor_rename]
  rfl

theorem unknownChanges_rename :
    (m.rename f g).unknownChanges = m.unknownChanges.map (Step.rename f g) := by
  rw [unknownChanges, history_rename]
  exact SlotTable.Renamed.empty.missesOf_eq hf m.history

theorem resolveStrict_rename :
    (m.rename f g).resolveStrict =
      (m.resolveStrict.map (FieldSet.rename f g)).mapError (UnknownChange.rename f) := by
  have hchanges := m.unknownChanges_rename hf g
  cases h : m.unknownChanges with
  | nil =>
    rw [h] at hchanges
    rw [resolveStrict_of_unknownChanges_nil m h, resolveStrict_of_unknownChanges_nil _ hchanges,
      m.resolve_rename hf g]
    rfl
  | cons s rest =>
    rw [h, List.map_cons] at hchanges
    rw [resolveStrict_of_unknownChanges_cons m h, resolveStrict_of_unknownChanges_cons _ hchanges]
    simp only [Step.rename, Operation.name_rename]
    rfl

end Message

/-- **Names and types are opaque.** Rename the fields of a message one-to-one and replace their
types in any way. Under both policies the replay gives the old fields under their new names and
types, with their old indices, order and version, or the old error about the renamed field. The
fields are the same if the map of live fields is kept in the order of the new names. -/
theorem Message.resolveWith_rename {f : String → String} (hf : Function.Injective f)
    (g : String → String) (m : Message) :
    (∀ policy, ((m.rename f g).resolveWith policy).outcome =
      ((m.resolveWith policy).outcome.map (FieldSet.rename f g)).mapError
        (UnknownChange.rename f)) ∧
    (SlotTable.empty.replaySorted (m.rename f g).history).fields =
      (m.resolve.rename f g).fields := by
  refine ⟨fun policy => ?_, ?_⟩
  · cases policy with
    | zeroIndex => exact congrArg Except.ok (m.resolve_rename hf g)
    | reject => exact m.resolveStrict_rename hf g
  · rw [history_rename]
    exact (SlotTable.Renamed.empty.replaySorted hf m.history).fields_eq

/-- Two fields that exchange their names, one of which is changed when it is not live. -/
theorem Message.resolveWith_rename_staleChat :
    Function.Injective (Equiv.swap "text" "room") ∧
    ((staleChat.rename (Equiv.swap "text" "room") (· ++ "*")).resolveWith .reject).outcome =
      .error { message := "Chat", field := "text", major := 3, minor := 0 } ∧
    (staleChat.rename (Equiv.swap "text" "room") (· ++ "*")).resolve.fields =
      [⟨0, "room", "String[]*"⟩, ⟨0, "text", "Room**"⟩] := by
  have hswap := (Equiv.swap "text" "room").injective
  have hstrict : (staleChat.resolveWith .reject).outcome =
      .error { message := "Chat", field := "room", major := 3, minor := 0 } := rfl
  have hfields : staleChat.resolve.fields = [⟨0, "text", "String[]"⟩, ⟨0, "room", "Room*"⟩] :=
    (SlotTable.fields_of_pairwise (by decide)).trans (by decide)
  obtain ⟨hrename, -⟩ := resolveWith_rename hswap (· ++ "*") staleChat
  have hresolve := Except.ok.inj (hrename .zeroIndex)
  refine ⟨hswap, ?_, ?_⟩
  · rw [hrename, hstrict]
    rfl
  · rw [hresolve]
    simp only [FieldSet.rename, hfields]
    rfl

end WireSchema
