import Mathlib.Data.List.Forall2
import WireSchema.Module.Emit
import WireSchema.Proofs.Log

/-!
# The items of an emitted Rust module

A module is written from its items: constants, structs, implementations and the function that
registers the factories. The items hold the identifiers and the fields that are found for a plan,
and a plan for which they are found can be written, with rollback and without it.

## Main definitions

* `Module.Item`, `Module.fileText`: items, and the text that is written from them.
* `Module.fileItems`: the items of planned objects and messages.
* `Module.Parts`: what a module is written from.

## Main results

* `Module.items_eq_map`, `Module.items_eq_ok`: the tokens of a module are written from items.
* `Module.mapM_make_eq_ok`: the fields that are found are those of the plan, in order.
-/

namespace WireSchema.Module

/-- A constant of a byte with a given literal. -/
def literalConstant (ident literal : String) : Tokens :=
  tokens ["pub", "const", ident, ":", "u8", "=", literal, ";"]

/-- An item of a module. -/
inductive Item
  /-- The import of a trait. -/
  | use (ts : Tokens)
  /-- A constant of a byte. -/
  | constant (ident literal : String)
  | struct (derived : List String) (ident : String) (body : Tokens)
  /-- A struct without members. -/
  | marker (derived : List String) (ident : String)
  /-- The functions of a struct, after a constant of a byte. -/
  | inherent (ident constant literal : String) (functions : Tokens)
  /-- The implementation of a trait. -/
  | implementation (attributes trait : Tokens) (ident : String) (methods : List Routine)
  | function (attributes : Tokens) (routine : Routine)

/-- The tokens of an item. -/
def Item.tokens : Item → Tokens
  | .use ts => ts
  | .constant ident literal => literalConstant ident literal
  | .struct derived ident body => Module.struct derived ident body
  | .marker derived ident =>
    listAttr "derive" derived ++ Module.tokens ["pub", "struct", ident, ";"]
  | .inherent ident name literal functions =>
    Module.tokens ["impl", ident] ++ braces (literalConstant name literal ++ functions)
  | .implementation attributes trait ident methods =>
    attributes ++ Module.implementation trait ident methods
  | .function attributes routine => attributes ++ .word "pub" :: routine.tokens

/-- The text of a module with given items. -/
def fileText (items : List Item) : String :=
  banner ++ render (items.flatMap Item.tokens) ++ "\n"

/-! ### The items of a plan -/

/-- An object with its identifier and its fields. -/
structure ObjectItem where
  ident : String
  fields : List Field

/-- The identifier and the fields of an object. -/
def ObjectItem.make (g : Grammar) (o : PlannedObject) : Except BuildError ObjectItem := do
  let ident ← identifier o.name
  let fields ← o.fields.mapM (Field.make g)
  return { ident, fields }

/-- The implementation of the four routines. -/
def serializableItem (runtime : Tokens) (isMessage rollback : Bool) (ident : String)
    (fields : List Field) : Item :=
  .implementation (listAttr "allow" ["unused_mut", "unused_variables"])
    (runtimeTrait runtime "Serializable") ident (routines runtime isMessage rollback fields)

/-- The items of an object. -/
def objectItems (runtime : Tokens) (rollback : Bool) (o : ObjectItem) : List Item :=
  [.struct ["Debug", "Default"] o.ident (members o.fields),
   serializableItem runtime false rollback o.ident o.fields]

/-- The items of a message. -/
def messageItems (runtime : Tokens) (rollback : Bool) (m : MessageItem) : List Item :=
  [.constant m.constant (hexByte m.plan.id),
   .struct ["Debug"] m.ident (tokens [versionMember, ":", "u8", ","] ++ members m.fields),
   .inherent m.ident "VERSION" (hexByte m.plan.version) (constructors m.fields),
   .implementation [] (path ["core", "default", "Default"]) m.ident [defaultRoutine],
   serializableItem runtime true rollback m.ident m.fields,
   .implementation [] (runtimeTrait runtime "Message") m.ident
     [typeIdRoutine m.constant, versionRoutine],
   .marker ["Clone", "Copy", "Debug", "Default"] m.factory,
   .implementation [] (runtimeTrait runtime "MessageFactory") m.factory
     [typeIdRoutine m.constant, getRoutine runtime m.ident]]

/-- The function that registers factories in order. -/
def registerItem (runtime : Tokens) (factories : List String) : Item :=
  .function
    (attr (tokens ["doc", "=", "r\" Add one factory per message, in declaration order.\""]) ++
      listAttr "allow" ["unused_variables"])
    { name := "register"
      parameters :=
        tokens ["registry", ":", "&", "mut", "impl"] ++ runtimeTrait runtime "FactoryRegistry"
      body := .concat (factories.map (addFactory runtime)) }

/-- The items of a module. -/
def fileItems (runtime : Tokens) (rollback : Bool) (objects : List ObjectItem)
    (messages : List MessageItem) (factories : List String) : List Item :=
  .use (traitImport runtime) :: objects.flatMap (objectItems runtime rollback) ++
    messages.flatMap (messageItems runtime rollback) ++ [registerItem runtime factories]

theorem object_eq_map (g : Grammar) (runtime : Tokens) (rollback : Bool) (o : PlannedObject) :
    object g runtime rollback o =
      (fun i => (objectItems runtime rollback i).flatMap Item.tokens) <$> ObjectItem.make g o := by
  simp only [object, ObjectItem.make, map_bind, map_pure]
  refine bind_congr fun ident => bind_congr fun fields => ?_
  simp only [objectItems, serializableItem, Item.tokens, serializable, List.flatMap_cons,
    List.flatMap_nil, List.append_nil]

theorem tokens_messageItems (runtime : Tokens) (rollback : Bool) (m : MessageItem) :
    (messageItems runtime rollback m).flatMap Item.tokens = m.tokens runtime rollback := by
  simp only [messageItems, serializableItem, Item.tokens, MessageItem.tokens, serializable,
    List.flatMap_cons, List.flatMap_nil, List.append_nil, List.append_assoc, List.nil_append]
  rfl

theorem message_eq_map (g : Grammar) (runtime : Tokens) (rollback : Bool) (m : PlannedMessage) :
    message g runtime rollback m =
      (fun i => (messageItems runtime rollback i).flatMap Item.tokens) <$>
        MessageItem.make g m := by
  simp only [message, tokens_messageItems]
  rfl

theorem register_eq_map (runtime : Tokens) (messages : List PlannedMessage) :
    register runtime messages =
      (fun factories => (registerItem runtime factories).tokens) <$>
        messages.mapM fun m => identifier (factoryName m.name) := by
  simp only [register, map_eq_pure_bind]
  refine bind_congr fun factories => ?_
  simp only [registerItem, Item.tokens, List.append_assoc]

theorem tokens_fileItems (runtime : Tokens) (rollback : Bool) (objects : List ObjectItem)
    (messages : List MessageItem) (factories : List String) :
    (fileItems runtime rollback objects messages factories).flatMap Item.tokens =
      traitImport runtime ++
        (objects.map fun i => (objectItems runtime rollback i).flatMap Item.tokens).flatten ++
        (messages.map fun i => (messageItems runtime rollback i).flatMap Item.tokens).flatten ++
        (registerItem runtime factories).tokens := by
  simp only [fileItems, List.flatMap_append, List.flatMap_cons, List.flatMap_nil,
    List.flatMap_assoc, List.cons_append, List.append_nil, List.append_assoc, ← List.flatMap_def]
  rfl

/-- What a module is written from. -/
structure Parts where
  runtime : Tokens
  objects : List ObjectItem
  messages : List MessageItem
  factories : List String

/-- The path of the runtime library, and the identifiers and the fields of a plan. -/
def Parts.make (g : Grammar) (s : ModuleSettings) (p : Plan) : Except BuildError Parts := do
  let runtime ← runtimePath g s
  let objects ← p.objects.mapM (ObjectItem.make g)
  let messages ← p.messages.mapM (MessageItem.make g)
  let factories ← p.messages.mapM fun m => identifier (factoryName m.name)
  return { runtime, objects, messages, factories }

theorem Parts.make_eq_ok {g : Grammar} {s : ModuleSettings} {p : Plan} {x : Parts}
    (h : make g s p = .ok x) :
    runtimePath g s = .ok x.runtime ∧
      p.objects.mapM (ObjectItem.make g) = .ok x.objects ∧
      p.messages.mapM (MessageItem.make g) = .ok x.messages ∧
      p.messages.mapM (fun m => identifier (factoryName m.name)) = .ok x.factories := by
  unfold make at h
  obtain ⟨runtime, hruntime, h⟩ := bind_eq_ok_iff.1 h
  obtain ⟨objects, hobjects, h⟩ := bind_eq_ok_iff.1 h
  obtain ⟨messages, hmessages, h⟩ := bind_eq_ok_iff.1 h
  obtain ⟨factories, hfactories, h⟩ := bind_eq_ok_iff.1 h
  cases h
  exact ⟨hruntime, hobjects, hmessages, hfactories⟩

/-- The tokens of a module. -/
def Parts.tokens (rollback : Bool) (x : Parts) : Tokens :=
  (fileItems x.runtime rollback x.objects x.messages x.factories).flatMap Item.tokens

/-- Whether a plan can be emitted does not depend on rollback. -/
theorem items_eq_map (g : Grammar) (s : Settings) (p : Plan) :
    items g s p = Parts.tokens s.generate.rollback <$> Parts.make g s.module p := by
  unfold items Parts.make
  rw [map_bind]
  refine bind_congr fun runtime => ?_
  rw [mapM_congr fun o _ => object_eq_map g runtime _ o, ← map_mapM,
    mapM_congr fun m _ => message_eq_map g runtime _ m, ← map_mapM, register_eq_map]
  simp only [map_eq_pure_bind, bind_assoc, pure_bind]
  refine bind_congr fun objects => bind_congr fun messages => bind_congr fun factories => ?_
  rw [Parts.tokens, tokens_fileItems]

/-- The tokens of a module are written from items, whose identifiers and fields are found in the
plan. -/
theorem items_eq_ok {g : Grammar} {s : Settings} {p : Plan} {ts : Tokens}
    (h : items g s p = .ok ts) :
    ∃ runtime objects messages factories,
      runtimePath g s.module = .ok runtime ∧
      p.objects.mapM (ObjectItem.make g) = .ok objects ∧
      p.messages.mapM (MessageItem.make g) = .ok messages ∧
      p.messages.mapM (fun m => identifier (factoryName m.name)) = .ok factories ∧
      ts = (fileItems runtime s.generate.rollback objects messages factories).flatMap
        Item.tokens := by
  rw [items_eq_map] at h
  obtain ⟨x, hx, rfl⟩ := map_eq_ok_iff.1 h
  obtain ⟨hruntime, hobjects, hmessages, hfactories⟩ := Parts.make_eq_ok hx
  exact ⟨x.runtime, x.objects, x.messages, x.factories, hruntime, hobjects, hmessages, hfactories,
    rfl⟩

/-! ### Fields -/

/-- The identifier of the name of a field. -/
def fieldIdentifier (g : Grammar) (f : PlannedField) : Except BuildError String :=
  identifier (g.snake f.name)

variable {g : Grammar}

theorem make_eq_ok {f : PlannedField} {x : Field} (h : Field.make g f = .ok x) :
    fieldIdentifier g f = .ok x.ident ∧ x.plan = f := by
  unfold Field.make at h
  obtain ⟨ident, hident, h⟩ := bind_eq_ok_iff.1 h
  obtain ⟨⟨type, value⟩, -, h⟩ := bind_eq_ok_iff.1 h
  cases h
  exact ⟨hident, rfl⟩

theorem mapM_make_eq_ok {fs : List PlannedField} {xs : List Field}
    (h : fs.mapM (Field.make g) = .ok xs) :
    fs.mapM (fieldIdentifier g) = .ok (xs.map (·.ident)) ∧ xs.map (·.plan) = fs := by
  have hxs := mapM_eq_ok_iff.1 h
  constructor
  · rw [mapM_eq_ok_iff, List.forall₂_map_right_iff]
    exact hxs.imp fun f x hx => (make_eq_ok hx).1
  · rw [← map_eq_map_of_forall₂ hxs fun f x hx => (make_eq_ok hx).2.symm, List.map_id']

theorem ObjectItem.make_eq_ok {o : PlannedObject} {i : ObjectItem}
    (h : ObjectItem.make g o = .ok i) :
    identifier o.name = .ok i.ident ∧ o.fields.mapM (Field.make g) = .ok i.fields := by
  unfold ObjectItem.make at h
  obtain ⟨ident, hident, h⟩ := bind_eq_ok_iff.1 h
  obtain ⟨fields, hfields, h⟩ := bind_eq_ok_iff.1 h
  cases h
  exact ⟨hident, hfields⟩

theorem MessageItem.make_eq_ok {m : PlannedMessage} {i : MessageItem}
    (h : MessageItem.make g m = .ok i) :
    i.plan = m ∧ identifier (m.name ++ "Message") = .ok i.ident ∧
      m.fields.mapM (Field.make g) = .ok i.fields := by
  unfold MessageItem.make at h
  obtain ⟨ident, hident, h⟩ := bind_eq_ok_iff.1 h
  obtain ⟨factory, -, h⟩ := bind_eq_ok_iff.1 h
  obtain ⟨constant, -, h⟩ := bind_eq_ok_iff.1 h
  obtain ⟨fields, hfields, h⟩ := bind_eq_ok_iff.1 h
  cases hclash : fields.find? (·.ident == versionMember) with
  | some clash => simp [hclash] at h
  | none =>
    rw [hclash] at h
    cases h
    exact ⟨rfl, hident, hfields⟩

end WireSchema.Module
