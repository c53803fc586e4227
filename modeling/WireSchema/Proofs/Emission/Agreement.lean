import WireSchema.Module.Standard
import WireSchema.Proofs.Emission.Collapse
import WireSchema.Proofs.Header.Classes
import WireSchema.Proofs.Header.TextLines
import WireSchema.Proofs.Module.Structs
import WireSchema.Proofs.Module.Text

/-!
# Both backends render one wire contract

A schema from which a Rust module can be emitted can be emitted as a C++ header, too. The classes
that are read from the lines of the header and the structs that are read from the tokens of the
module render the same contracts, in the order in which the schema declares its types: the same
names, tags and versions, and in each of the four routines the same action for each field. Both
register the factories of the messages in order. The lines and the tokens are those of the emitted
texts.

## Main results

* `Plan.contracts_of_make`: the contracts of a plan in terms of the schema.
* `backends_agree`: both backends render the contracts of the plan.
-/

namespace WireSchema

/-- A planned message has the tag and the name of the message, and its latest version. -/
theorem PlannedMessage.eq_of_make {s : GenerateSettings} {m : Message} {pm : PlannedMessage}
    (h : (PlannedMessage.make s m).outcome = .ok pm) :
    pm.id = m.id ∧ pm.name = m.name ∧ pm.version = m.latestMajor := by
  obtain ⟨-, rfl⟩ := make_eq_ok h
  exact ⟨rfl, rfl, rfl⟩

/-- The types of a plan are those of the schema, in the order of their declarations. -/
theorem Plan.types_of_make {d : Definitions} {s : GenerateSettings} {p : Plan}
    (h : (Plan.make d s).outcome = .ok p) :
    p.objects = d.objects.map (PlannedObject.make s.matching) ∧
      List.Forall₂ (fun m pm => pm.id = m.id ∧ pm.name = m.name ∧ pm.version = m.latestMajor)
        d.messages p.messages := by
  rw [outcome_make] at h
  obtain ⟨messages, hmessages, rfl⟩ := map_eq_ok_iff.1 h
  exact ⟨rfl, (mapM_eq_ok_iff.1 hmessages).imp fun m pm hm => PlannedMessage.eq_of_make hm⟩

/-- The names and the literals of the types of a schema, in the order of their declarations. -/
def Definitions.declared (d : Definitions) : List (String × Option (String × String)) :=
  d.objects.map (fun o => (o.name, none)) ++
    d.messages.map fun m => (m.name ++ "Message", some (hexByte m.id, hexByte m.latestMajor))

theorem Plan.contracts_of_make {d : Definitions} {s : GenerateSettings} {p : Plan}
    (h : (Plan.make d s).outcome = .ok p) :
    p.contracts.map (fun w => (w.name, w.literals)) = d.declared := by
  obtain ⟨hobjects, hmessages⟩ := types_of_make h
  have hnamed := map_eq_map_of_forall₂ hmessages
    (f := fun m => (m.name ++ "Message", some (hexByte m.id, hexByte m.latestMajor)))
    (g := fun pm => (pm.name ++ "Message", some (hexByte pm.id, hexByte pm.version)))
    fun m pm hm => by rw [hm.1, hm.2.1, hm.2.2]
  simp only [contracts, Definitions.declared, List.map_append, List.map_map, hobjects, hnamed]
  rfl

/-- The lines of a header and the tokens of a module render the contracts of one plan for a
schema. -/
structure SharedContract (g : Module.Grammar) (d : Definitions) (s : Settings) (p : Plan)
    (lines : List Header.Line) (module : Module.Tokens) : Prop where
  /-- The plan is the plan of the schema. -/
  plan : (Plan.make d s.generate).outcome = .ok p
  /-- Its types are those that the schema declares, in order. -/
  declared : p.contracts.map (fun w => (w.name, w.literals)) = d.declared
  /-- The classes of the header render the contracts of the plan, in order. -/
  classes : List.Forall₂ (Header.Renders s.generate.rollback) p.contracts (Header.classes lines)
  /-- The header registers the factories of the messages, in order. -/
  factories : Header.registered lines = d.messages.map (·.name ++ "MessageFactory")
  /-- The structs of the module render the same contracts, in order, and the module registers the
  factories in the same order. -/
  module : ∃ runtime structs factories,
    Module.runtimePath g s.module = .ok runtime ∧
    Module.readModule? runtime module = some (structs, factories) ∧
    List.Forall₂ (Module.Renders g runtime s.generate.rollback) p.contracts structs ∧
    (Header.registered lines).mapM Module.identifier = .ok factories

/-- **Both backends render the same wire contract.** Where a module can be emitted from a schema, a
header can be emitted, too. The classes that are read from the lines of the header and the structs
that are read from the tokens of the module render the same contracts: they have the same names,
tags and versions, take the same action for each field in each of the four routines, and have one
failed read for each field and one more for each array. Where the names of the fields differ, their
routines cannot be read as taking other actions. The lines are read back from the text of the
header if no text of the schema and no name in the settings holds a tab or a line break, and the
tokens from the text of the module if they are readable. -/
theorem backends_agree (g : Module.Grammar) (d : Definitions) (s : Settings) {text : String}
    (h : (Backend.module.emit g d s).outcome = .ok text) :
    ∃ (p : Plan) (header : String) (module : Module.Tokens),
      let lines := Header.lines s.header s.generate.rollback p
      SharedContract g d s p lines module ∧
      (Backend.header.emit g d s).outcome = .ok header ∧
      ((∀ t ∈ d.texts ++ s.header.texts, Text.Unbroken t) →
        Header.textLines header = lines ++ [⟨0, ""⟩]) ∧
      Module.items g s p = .ok module ∧
      ((∀ t ∈ module, t.IsReadable) → Module.fileTokens text = module) := by
  simp only [Backend.emit, Module.emit, Logged.outcome_bind, Logged.outcome_ofExcept,
    Logged.outcome_pure] at h
  obtain ⟨p, hplan, h⟩ := bind_eq_ok_iff.1 h
  obtain ⟨module, hitems, h⟩ := bind_eq_ok_iff.1 h
  obtain rfl := Except.ok.inj h
  obtain ⟨runtime, structs, factories, hruntime, hread, hstructs, hfactories⟩ :=
    Module.readModule?_items hitems
  have hnames : d.messages.map (·.name ++ "MessageFactory") =
      p.messages.map (·.name ++ "MessageFactory") :=
    map_eq_map_of_forall₂ (Plan.types_of_make hplan).2 fun m pm hm => by rw [hm.2.1]
  let lines := Header.lines s.header s.generate.rollback p
  have hregistered : Header.registered lines = p.messages.map (·.name ++ "MessageFactory") :=
    Header.registered_lines s.header s.generate.rollback p
  refine ⟨p, Header.renderLines lines, module,
    { plan := hplan
      declared := Plan.contracts_of_make hplan
      classes := Header.forall₂_renders s.header s.generate.rollback p
      factories := hregistered.trans hnames.symm
      module := ⟨runtime, structs, factories, hruntime, hread, hstructs, ?_⟩ },
    ?_, Header.textLines_lines hplan, hitems, Module.fileTokens_banner⟩
  · rw [hregistered, List.mapM_map]
    exact hfactories
  · simp only [Backend.emit, Header.emit, Logged.outcome_bind, hplan]
    rfl

/-- A schema with a field of each kind. -/
def harborSchema : Definitions where
  objects := [{ name := "Berth", fields := [{ name := "depth", type := "float" }] }]
  messages := [{
    id := 7
    name := "Dock"
    versions := [{
      major := 2
      add := [
        { name := "berths", type := "Berth[]*" },
        { name := "pilot", type := "Crew**" },
        { name := "signal", type := "int*" },
        { name := "home", type := "Berth" }] }] }]

/-- The plan of the schema. -/
def harborPlan : Plan where
  objects := [⟨"Berth", [⟨"depth", 0, ⟨"float", some .float, none, false, 0, ""⟩⟩]⟩]
  messages := [⟨7, "Dock", 2,
    [⟨"berths", 0, ⟨"Berth[]*", none, none, true, 1, "Berth"⟩⟩,
     ⟨"pilot", 1, ⟨"Crew**", none, none, false, 2, "Crew"⟩⟩,
     ⟨"signal", 2, ⟨"int*", some .int, none, false, 1, ""⟩⟩,
     ⟨"home", 3, ⟨"Berth", none, none, false, 0, "Berth"⟩⟩]⟩]

/-- A module is emitted from the schema. It can be read back from its text and so can its header.
Together they render an object whose read can fail once and a message whose read can fail five
times. -/
theorem backends_agree_harborSchema :
    let s : Settings := { generate := { matching := .token } }
    ∃ (text header : String) (p : Plan) (lines : List Header.Line) (module : Module.Tokens),
      (Backend.module.emit Module.standardGrammar harborSchema s).outcome = .ok text ∧
      (Backend.header.emit Module.standardGrammar harborSchema s).outcome = .ok header ∧
      SharedContract Module.standardGrammar harborSchema s p lines module ∧
      Header.textLines header = lines ++ [⟨0, ""⟩] ∧ Module.fileTokens text = module ∧
      p.contracts.map (fun w => (w.name, w.literals, failureExits w.content)) =
        [("Berth", none, 1), ("DockMessage", some ("0x7", "0x2"), 5)] := by
  intro s
  have hplan : (Plan.make harborSchema s.generate).outcome = .ok harborPlan :=
    (Plan.make_of_inOrder rfl (by decide)).trans (by decide +kernel)
  have hreadable : (fun ts => decide (∀ t ∈ ts, Module.Token.IsReadable t)) <$>
      Module.items Module.standardGrammar s harborPlan = .ok true := by decide +kernel
  obtain ⟨ts, hts, hreadable⟩ := map_eq_ok_iff.1 hreadable
  have hemit : (Backend.module.emit Module.standardGrammar harborSchema s).outcome =
      .ok (Module.banner ++ Module.render ts ++ "\n") := by
    simp only [Backend.emit, Module.emit, Logged.outcome_bind, Logged.outcome_ofExcept, hplan]
    change (Module.items Module.standardGrammar s harborPlan >>= _) = _
    rw [hts]
    rfl
  obtain ⟨p, header, module, hshared, hheader, hlines, hmodule, htokens⟩ :=
    backends_agree Module.standardGrammar harborSchema s hemit
  obtain rfl : harborPlan = p := Except.ok.inj (hplan.symm.trans hshared.plan)
  obtain rfl : ts = module := Except.ok.inj (hts.symm.trans hmodule)
  exact ⟨_, header, harborPlan, _, ts, hemit, hheader, hshared, hlines (by decide +kernel),
    htokens (of_decide_eq_true hreadable), by decide +kernel⟩

end WireSchema
