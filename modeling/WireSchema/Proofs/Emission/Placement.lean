import Mathlib.Tactic.Common
import WireSchema.Backend
import WireSchema.Proofs.Log

/-!
# Emission without indices

A planned field carries the index of its slot. Neither backend reads it: the lines of a header and
the items of a module stay the same when every index is set to zero, and so does the error of a
module that cannot be emitted.

## Main definitions

* `PlannedField.unplaced`, `PlannedMessage.unplaced`, `Plan.unplaced`: a plan without the indices
  of the fields of messages.

## Main results

* `Header.lines_unplaced`: the lines of a header.
* `Module.items_unplaced`: the items of a module.
-/

namespace WireSchema

/-- A planned field without its index. -/
def PlannedField.unplaced (f : PlannedField) : PlannedField :=
  { f with index := 0 }

@[simp] theorem PlannedField.unplaced_name (f : PlannedField) : f.unplaced.name = f.name := rfl

@[simp] theorem PlannedField.unplaced_type (f : PlannedField) : f.unplaced.type = f.type := rfl

@[simp] theorem PlannedField.unplaced_kind (f : PlannedField) : f.unplaced.kind = f.kind := rfl

/-- A planned message without the indices of its fields. -/
def PlannedMessage.unplaced (m : PlannedMessage) : PlannedMessage :=
  { m with fields := m.fields.map PlannedField.unplaced }

/-- A plan without the indices of the fields of its messages. -/
def Plan.unplaced (p : Plan) : Plan :=
  { p with messages := p.messages.map PlannedMessage.unplaced }

/-! ### Headers -/

namespace Header

theorem declarations_unplaced (fields : List PlannedField) :
    declarations (fields.map PlannedField.unplaced) = declarations fields := by
  simp only [declarations, List.flatMap_map]
  rfl

theorem routines_unplaced (isMessage rollback : Bool) (fields : List PlannedField) :
    routines isMessage rollback (fields.map PlannedField.unplaced) =
      routines isMessage rollback fields := by
  simp only [routines, lengthRoutine, deserializeRoutine, serializeRoutine, disposeRoutine,
    List.map_map]
  rfl

theorem messageLines_unplaced (rollback : Bool) (m : PlannedMessage) :
    messageLines rollback m.unplaced = messageLines rollback m := by
  simp only [messageLines, messageClass, routineLines, PlannedMessage.unplaced,
    declarations_unplaced, routines_unplaced]
  rfl

/-- The lines of a header do not depend on the indices of fields. -/
theorem lines_unplaced (s : HeaderSettings) (rollback : Bool) (p : Plan) :
    lines s rollback p.unplaced = lines s rollback p := by
  simp only [lines, registerLines, Plan.unplaced, List.flatMap_map, List.map_map,
    messageLines_unplaced]
  rfl

end Header

/-! ### Modules -/

namespace Module

variable (g : Grammar)

/-- A field of a struct without its index. -/
def Field.unplaced (f : Field) : Field :=
  { f with plan := f.plan.unplaced }

/-- The item of a message without the indices of its fields. -/
def MessageItem.unplaced (m : MessageItem) : MessageItem :=
  { m with plan := m.plan.unplaced, fields := m.fields.map Field.unplaced }

theorem builtinType_unplaced (f : PlannedField) : builtinType f.unplaced = builtinType f := by
  unfold builtinType
  rw [PlannedField.unplaced_type, PlannedField.unplaced_name]

theorem nestedType_unplaced (f : PlannedField) : nestedType g f.unplaced = nestedType g f := by
  unfold nestedType
  rw [PlannedField.unplaced_type, PlannedField.unplaced_name]

theorem fieldTypes_unplaced (f : PlannedField) : fieldTypes g f.unplaced = fieldTypes g f := by
  unfold fieldTypes
  rw [PlannedField.unplaced_kind, PlannedField.unplaced_type, builtinType_unplaced,
    nestedType_unplaced]

theorem make_unplaced (f : PlannedField) :
    Field.make g f.unplaced = Field.unplaced <$> Field.make g f := by
  unfold Field.make
  rw [fieldTypes_unplaced, PlannedField.unplaced_name]
  simp only [map_bind, map_pure]
  rfl

theorem mapM_make_unplaced (fields : List PlannedField) :
    (fields.map PlannedField.unplaced).mapM (Field.make g) =
      List.map Field.unplaced <$> fields.mapM (Field.make g) := by
  rw [List.mapM_map, map_mapM]
  exact mapM_congr fun f _ => make_unplaced g f

theorem members_unplaced (fields : List Field) :
    members (fields.map Field.unplaced) = members fields := by
  simp only [members, List.flatMap_map]
  rfl

theorem constructors_unplaced (fields : List Field) :
    constructors (fields.map Field.unplaced) = constructors fields := by
  simp only [constructors, List.flatMap_map]
  rfl

theorem routines_unplaced (runtime : Tokens) (isMessage rollback : Bool) (fields : List Field) :
    routines runtime isMessage rollback (fields.map Field.unplaced) =
      routines runtime isMessage rollback fields := by
  simp only [routines, lengthRoutine, deserializeRoutine, serializeRoutine, disposeRoutine,
    List.map_map]
  rfl

theorem messageItem_make_unplaced (m : PlannedMessage) :
    MessageItem.make g m.unplaced = MessageItem.unplaced <$> MessageItem.make g m := by
  unfold MessageItem.make PlannedMessage.unplaced
  simp only [map_bind]
  refine bind_congr fun ident => bind_congr fun factory => bind_congr fun constant => ?_
  rw [mapM_make_unplaced, bind_map_left]
  refine bind_congr fun fields => ?_
  have hclash : (fields.map Field.unplaced).find? (·.ident == versionMember) =
      (fields.find? (·.ident == versionMember)).map Field.unplaced := List.find?_map
  rw [hclash]
  cases fields.find? (·.ident == versionMember) <;> rfl

theorem tokens_unplaced (runtime : Tokens) (rollback : Bool) (m : MessageItem) :
    m.unplaced.tokens runtime rollback = m.tokens runtime rollback := by
  simp only [MessageItem.tokens, MessageItem.unplaced, members_unplaced, constructors_unplaced,
    routines_unplaced]
  rfl

theorem message_unplaced (runtime : Tokens) (rollback : Bool) (m : PlannedMessage) :
    message g runtime rollback m.unplaced = message g runtime rollback m := by
  unfold message
  rw [messageItem_make_unplaced, bind_map_left]
  simp only [tokens_unplaced]

/-- The items of a module, and the error where there are none, do not depend on the indices of
fields. -/
theorem items_unplaced (s : Settings) (p : Plan) : items g s p.unplaced = items g s p := by
  have hmessages : ∀ runtime, p.unplaced.messages.mapM (message g runtime s.generate.rollback) =
      p.messages.mapM (message g runtime s.generate.rollback) := fun runtime => by
    rw [Plan.unplaced, List.mapM_map]
    exact mapM_congr fun m _ => message_unplaced g runtime s.generate.rollback m
  have hregister : ∀ runtime, register runtime p.unplaced.messages = register runtime p.messages :=
    fun runtime => by
      unfold register
      rw [Plan.unplaced, List.mapM_map]
      rfl
  unfold items
  simp only [hmessages, hregister]
  rfl

end Module

end WireSchema
