import Mathlib.Data.List.Nodup
import WireSchema.Module.Standard
import WireSchema.Proofs.Emission.Collapse
import WireSchema.Proofs.Module.IdentifierNames
import WireSchema.Proofs.Module.Items

/-!
# The names of the members of a message struct

The struct of a message declares its version and a member for every field. The member of a field
has the first word of the field's name in snake case as its name, and different fields may share
that word: nothing compares the members of two fields. Only the version is kept apart from the
fields, and only from identifiers that are not raw. So the names of all members differ exactly when
fields have different words and no field has the raw identifier of the version.

## Main definitions

* `Module.Declaration`, `Module.declarations`: the members that the struct of a message declares.
* `Module.memberName`: the name of the member of a field.

## Main results

* `Module.names_declarations`: the names of the members of a struct.
* `Module.nodup_declarations_iff`: when the members of a struct have different names.
* `Module.emit_declarations`: the same for every struct of a message in an emitted module.
* `Module.declarations_aimSchema`: a module with a struct that declares two members of one name.
-/

namespace WireSchema.Module

/-! ### Declarations -/

/-- The declaration of a member of a struct. -/
structure Declaration where
  /-- Is the member public? -/
  shared : Bool
  ident : String
  type : Tokens

/-- The tokens of a declaration. -/
def Declaration.tokens (x : Declaration) : Tokens :=
  Module.tokens ((if x.shared then ["pub"] else []) ++ [x.ident, ":"]) ++ x.type ++ [.word ","]

/-- The declarations of the struct of a message. -/
def declarations (m : MessageItem) : List Declaration :=
  ⟨false, versionMember, [.word "u8"]⟩ :: m.fields.map fun f => ⟨true, f.ident, f.type.tokens⟩

theorem map_ident_declarations (m : MessageItem) :
    (declarations m).map (·.ident) = versionMember :: m.fields.map (·.ident) := by
  rw [declarations, List.map_cons, List.map_map]
  rfl

/-- The struct of a message holds its declarations and nothing else. -/
theorem struct_mem_messageItems (runtime : Tokens) (rollback : Bool) (m : MessageItem) :
    .struct ["Debug"] m.ident ((declarations m).flatMap Declaration.tokens) ∈
      messageItems runtime rollback m := by
  have hbody : (declarations m).flatMap Declaration.tokens =
      tokens [versionMember, ":", "u8", ","] ++ members m.fields := by
    rw [declarations, List.flatMap_cons, List.flatMap_map]
    rfl
  rw [hbody]
  exact .tail _ (.head _)

/-! ### Names -/

/-- The name of the member of a field. -/
def memberName (g : Grammar) (field : String) : String :=
  String.ofList (firstWord (g.snake field).toList)

/-- The raw identifier of the version. -/
def rawVersion : String := "r#" ++ versionMember

theorem identifierName_of_fieldIdentifier {g : Grammar} {f : PlannedField} {ident : String}
    (h : fieldIdentifier g f = .ok ident) : identifierName ident = memberName g f.name := by
  unfold fieldIdentifier identifier at h
  split at h
  · rename_i word hword
    cases h
    rw [identifierName_of_identifier? hword, memberName]
  · cases h

/-- An identifier has the name of the version if it is the version, raw or not. -/
theorem identifierName_eq_versionMember_iff {ident : String} :
    identifierName ident = versionMember ↔ ident = versionMember ∨ ident = rawVersion := by
  constructor
  · intro h
    have hchars : withoutRawMark ident.toList = versionMember.toList := by
      rw [← h, identifierName, String.toList_ofList]
    unfold withoutRawMark at hchars
    split at hchars
    · rename_i cs hident
      right
      apply String.toList_injective
      rw [hident, hchars]
      rfl
    · left
      exact String.toList_injective hchars
  · rintro (rfl | rfl) <;> rfl

theorem MessageItem.ident_ne_of_make {g : Grammar} {m : PlannedMessage} {i : MessageItem}
    (h : MessageItem.make g m = .ok i) : ∀ f ∈ i.fields, f.ident ≠ versionMember := by
  unfold MessageItem.make at h
  obtain ⟨ident, -, h⟩ := bind_eq_ok_iff.1 h
  obtain ⟨factory, -, h⟩ := bind_eq_ok_iff.1 h
  obtain ⟨constant, -, h⟩ := bind_eq_ok_iff.1 h
  obtain ⟨fields, -, h⟩ := bind_eq_ok_iff.1 h
  cases hclash : fields.find? (·.ident == versionMember) with
  | some clash => simp [hclash] at h
  | none =>
    rw [hclash] at h
    cases h
    simpa using hclash

variable {g : Grammar} {p : PlannedMessage} {m : MessageItem}

/-- The identifiers of the members are called like the words of the fields. -/
theorem names_fields (h : MessageItem.make g p = .ok m) :
    m.fields.map (identifierName ·.ident) = p.fields.map (memberName g ·.name) := by
  obtain ⟨hidents, -⟩ := mapM_make_eq_ok (MessageItem.make_eq_ok h).2.2
  rw [mapM_eq_ok_iff, List.forall₂_map_right_iff] at hidents
  refine (map_eq_map_of_forall₂ hidents fun f x hx => ?_).symm
  exact (identifierName_of_fieldIdentifier hx).symm

/-- The members of a struct are called like the version and the words of the fields. -/
theorem names_declarations (h : MessageItem.make g p = .ok m) :
    (declarations m).map (identifierName ·.ident) =
      versionMember :: p.fields.map (memberName g ·.name) := by
  rw [← names_fields h, declarations, List.map_cons, List.map_map]
  rfl

/-- The words of fields with different names. -/
theorem nodup_words_iff {fields : List PlannedField} (hnames : (fields.map (·.name)).Nodup) :
    (fields.map (memberName g ·.name)).Nodup ↔
      ∀ f ∈ fields, ∀ f' ∈ fields,
        memberName g f.name = memberName g f'.name → f.name = f'.name := by
  have hinj := List.nodup_map_iff_inj_on hnames (f := memberName g)
  simpa only [List.map_map, Function.comp_def, List.forall_mem_map] using hinj

/-- The members of a struct have different names when the fields have different words and none
has the raw identifier of the version. -/
theorem nodup_declarations_iff (h : MessageItem.make g p = .ok m)
    (hnames : (p.fields.map (·.name)).Nodup) :
    ((declarations m).map (identifierName ·.ident)).Nodup ↔
      (∀ f ∈ p.fields, ∀ f' ∈ p.fields,
          memberName g f.name = memberName g f'.name → f.name = f'.name) ∧
        ∀ f ∈ m.fields, f.ident ≠ rawVersion := by
  have hversion : versionMember ∉ p.fields.map (memberName g ·.name) ↔
      ∀ f ∈ m.fields, f.ident ≠ rawVersion := by
    rw [← names_fields h, List.mem_map, not_exists]
    refine forall_congr' fun f => ?_
    rw [not_and, identifierName_eq_versionMember_iff]
    refine forall_congr' fun hf => ?_
    rw [or_iff_right (MessageItem.ident_ne_of_make h f hf)]
  rw [names_declarations h, List.nodup_cons, hversion, nodup_words_iff hnames, and_comm]

/-! ### Modules -/

/-- A module is written from the items of the plan of a schema. -/
theorem emit_eq_ok {g : Grammar} {d : Definitions} {s : Settings} {text : String}
    (h : (Backend.module.emit g d s).outcome = .ok text) :
    ∃ p runtime objects messages factories, (Plan.make d s.generate).outcome = .ok p ∧
      p.messages.mapM (MessageItem.make g) = .ok messages ∧
      text = fileText (fileItems runtime s.generate.rollback objects messages factories) := by
  simp only [Backend.emit, Module.emit, Logged.outcome_bind, Logged.outcome_ofExcept,
    Logged.outcome_pure] at h
  obtain ⟨p, hplan, h⟩ := bind_eq_ok_iff.1 h
  obtain ⟨ts, hitems, h⟩ := bind_eq_ok_iff.1 h
  obtain ⟨runtime, objects, messages, factories, -, -, hmessages, -, rfl⟩ := items_eq_ok hitems
  exact ⟨p, runtime, objects, messages, factories, hplan, hmessages, (Except.ok.inj h).symm⟩

/-- **When the members of a message struct have different names.** A module that is emitted has a
struct for every planned message, which declares its version and a member for every field. None of
the fields has the identifier of the version. The names of all members are different when different
fields have different words in snake case and none has the raw identifier of the version, and only
then; they are different where all fields are called like their members. -/
theorem emit_declarations (g : Grammar) (d : Definitions) (s : Settings) {text : String}
    (h : (Backend.module.emit g d s).outcome = .ok text) :
    ∃ (p : Plan) (runtime : Tokens) (objects : List ObjectItem) (messages : List MessageItem)
        (factories : List String),
      (Plan.make d s.generate).outcome = .ok p ∧
      text = fileText (fileItems runtime s.generate.rollback objects messages factories) ∧
      p.messages.mapM (MessageItem.make g) = .ok messages ∧ messages.map (·.plan) = p.messages ∧
      ∀ m ∈ messages,
        .struct ["Debug"] m.ident ((declarations m).flatMap Declaration.tokens) ∈
          messageItems runtime s.generate.rollback m ∧
        (∀ f ∈ m.fields, f.ident ≠ versionMember) ∧
        (((declarations m).map (identifierName ·.ident)).Nodup ↔
          (∀ f ∈ m.plan.fields, ∀ f' ∈ m.plan.fields,
            memberName g f.name = memberName g f'.name → f.name = f'.name) ∧
          ∀ f ∈ m.fields, f.ident ≠ rawVersion) ∧
        ((∀ f ∈ m.plan.fields, memberName g f.name = f.name) →
          ((declarations m).map (identifierName ·.ident)).Nodup) := by
  obtain ⟨p, runtime, objects, messages, factories, hplan, hmessages, htext⟩ := emit_eq_ok h
  have hplans : messages.map (·.plan) = p.messages := by
    rw [← map_eq_map_of_forall₂ (mapM_eq_ok_iff.1 hmessages) (f := id) fun pm m hm =>
      (MessageItem.make_eq_ok hm).1.symm, List.map_id]
  refine ⟨p, runtime, objects, messages, factories, hplan, htext, hmessages, hplans,
    fun m hm => ?_⟩
  obtain ⟨pm, hpm, hmake⟩ := exists_of_mem_of_mapM hmessages hm
  obtain ⟨source, -, hsource⟩ := Plan.exists_of_mem_messages hplan hpm
  obtain ⟨hnames, hversion⟩ := PlannedMessage.names_of_make hsource
  obtain ⟨rfl, -, -⟩ := MessageItem.make_eq_ok hmake
  refine ⟨struct_mem_messageItems runtime _ m, MessageItem.ident_ne_of_make hmake,
    nodup_declarations_iff hmake hnames, fun hwords => ?_⟩
  rw [names_declarations hmake, List.map_congr_left hwords]
  exact List.nodup_cons.2 ⟨hversion, hnames⟩

/-- A message with two numbers. -/
def aimSchema (first second : String) : Definitions where
  messages := [{
    id := 7
    name := "Aim"
    versions := [{
      major := 1
      add := [{ name := first, type := "int" }, { name := second, type := "int" }] }] }]

/-- The plan of `aimSchema`. -/
def aim (first second : String) : PlannedMessage where
  id := 7
  name := "Aim"
  version := 1
  fields := [.make .substring first 0 "int", .make .substring second 1 "int"]

/-- A module is emitted from a schema whose plan can be written as items. -/
theorem exists_emit_of_items {d : Definitions} {s : Settings} {p : Plan}
    (hplan : (Plan.make d s.generate).outcome = .ok p) (hitems : (items g s p).isOk = true) :
    ∃ text, (Backend.module.emit g d s).outcome = .ok text := by
  cases hts : items g s p with
  | error e => simp [hts, Except.isOk, Except.toBool] at hitems
  | ok ts =>
    simp only [Backend.emit, Module.emit, Logged.outcome_bind, Logged.outcome_ofExcept, hplan]
    exact ⟨banner ++ render ts ++ "\n", by change (items g s p >>= _) = _; rw [hts]; rfl⟩

/-- The item of the only message of a plan. -/
theorem exists_item_of_idents {pm : PlannedMessage} {messages : List MessageItem}
    (idents : List String) (hmessages : [pm].mapM (MessageItem.make g) = .ok messages)
    (hidents : (fun m => (declarations m).map (·.ident)) <$> MessageItem.make g pm = .ok idents) :
    ∃ m, MessageItem.make g pm = .ok m ∧ messages = [m] ∧
      (declarations m).map (·.ident) = idents := by
  obtain ⟨m, hm, hidents⟩ := map_eq_ok_iff.1 hidents
  rw [List.mapM_cons, hm] at hmessages
  exact ⟨m, hm, (Except.ok.inj hmessages).symm, hidents⟩

/-- A member whose field is written in camel case stands beside a raw one. -/
theorem emit_declarations_aimSchema :
    ∃ (text : String) (runtime : Tokens) (objects : List ObjectItem) (m : MessageItem)
        (factories : List String),
      (Backend.module.emit standardGrammar (aimSchema "targetId" "type") {}).outcome = .ok text ∧
      text = fileText (fileItems runtime false objects [m] factories) ∧
      (declarations m).map (·.ident) = ["ver", "target_id", "r#type"] ∧
      ((declarations m).map (identifierName ·.ident)).Nodup := by
  have hplan : (Plan.make (aimSchema "targetId" "type") {}).outcome =
      .ok { messages := [aim "targetId" "type"] } :=
    (Plan.make_of_inOrder rfl (by decide)).trans (by decide +kernel)
  obtain ⟨text, htext⟩ := exists_emit_of_items (g := standardGrammar) (s := {}) hplan
    (by decide +kernel)
  obtain ⟨p, runtime, objects, messages, factories, hp, hfile, hmessages, -, hmembers⟩ :=
    emit_declarations _ _ _ htext
  obtain rfl : { messages := [aim "targetId" "type"] } = p := Except.ok.inj (hplan.symm.trans hp)
  obtain ⟨m, hm, rfl, hidents⟩ :=
    exists_item_of_idents ["ver", "target_id", "r#type"] hmessages (by decide +kernel)
  refine ⟨text, runtime, objects, m, factories, htext, hfile, hidents, ?_⟩
  refine (hmembers m (.head _)).2.2.1.2 ⟨?_, ?_⟩
  · rw [(MessageItem.make_eq_ok hm).1]
    decide +kernel
  · intro f hf hraw
    have hmem : rawVersion ∈ (declarations m).map (·.ident) := by
      rw [map_ident_declarations, ← hraw]
      exact List.mem_cons_of_mem _ (List.mem_map_of_mem hf)
    rw [hidents] at hmem
    exact absurd hmem (by decide)

/-- Two names that are the same in snake case give two members of one name. -/
theorem declarations_aimSchema :
    ∃ (text : String) (runtime : Tokens) (objects : List ObjectItem) (m : MessageItem)
        (factories : List String),
      (Backend.module.emit standardGrammar (aimSchema "targetId" "target_id") {}).outcome =
        .ok text ∧
      text = fileText (fileItems runtime false objects [m] factories) ∧
      (declarations m).map (·.ident) = ["ver", "target_id", "target_id"] ∧
      ¬ ((declarations m).map (identifierName ·.ident)).Nodup := by
  have hplan : (Plan.make (aimSchema "targetId" "target_id") {}).outcome =
      .ok { messages := [aim "targetId" "target_id"] } :=
    (Plan.make_of_inOrder rfl (by decide)).trans (by decide +kernel)
  obtain ⟨text, htext⟩ := exists_emit_of_items (g := standardGrammar) (s := {}) hplan
    (by decide +kernel)
  obtain ⟨p, runtime, objects, messages, factories, hp, hmessages, hfile⟩ := emit_eq_ok htext
  obtain rfl : { messages := [aim "targetId" "target_id"] } = p :=
    Except.ok.inj (hplan.symm.trans hp)
  obtain ⟨m, hm, rfl, hidents⟩ :=
    exists_item_of_idents ["ver", "target_id", "target_id"] hmessages (by decide +kernel)
  refine ⟨text, runtime, objects, m, factories, htext, hfile, hidents, ?_⟩
  have hnames : (declarations m).map (identifierName ·.ident) =
      ["ver", "target_id", "target_id"] := by
    rw [names_declarations hm]
    decide +kernel
  rw [hnames]
  decide

end WireSchema.Module
