import Mathlib.Data.List.Infix
import Mathlib.Tactic.Common
import WireSchema.Module.Standard
import WireSchema.Proofs.Emission.Placement
import WireSchema.Proofs.Replay.Policies

/-!
# Emission from collapsed histories

The history of a message can be collapsed into one delta that adds the resolved fields in their
order. Both backends emit the same text from a schema and from the schema with all its histories
collapsed, without flags and defaults, or refuse both with the same error. So of a history only
the names, the types and the order of the fields that it leaves are emitted, and the version.

## Main definitions

* `FieldSet.toDelta`, `FieldSet.renumber`: the delta that adds all fields, and the fields as its
  replay numbers them.
* `Message.collapse`, `Object.withoutDefaults`, `Definitions.collapse`: a schema with collapsed
  histories.

## Main results

* `SlotTable.roster_additions`: the roster after additions of distinct fields.
* `Message.resolveWith_collapse`: the fields of a collapsed message.
* `PlannedMessage.make_eq_ok`: the plan of a message.
* `Plan.make_collapse`: the plan of a collapsed schema, up to indices.
* `emit_collapse`: the emission of a collapsed schema.
-/

namespace WireSchema

open Operation

/-- The delta that adds all fields in their order. -/
def FieldSet.toDelta (r : FieldSet) : VersionDelta where
  major := r.version
  minor := 0
  add := r.fields.map fun f => { name := f.name, type := f.type }

/-- The fields with their places as indices. -/
def FieldSet.renumber (r : FieldSet) : FieldSet where
  version := r.version
  fields := r.fields.zipIdx.map fun (f, i) => { f with index := i }

/-- A message whose history is one delta that adds the fields which its history leaves. A message
that the policy rejects stays as it is. -/
def Message.collapse (policy : ChangePolicy) (m : Message) : Message :=
  match (m.resolveWith policy).outcome with
  | .ok r => { m with flags := 0, versions := [r.toDelta] }
  | .error _ => m

/-- An object without the defaults of its fields. -/
def Object.withoutDefaults (o : Object) : Object :=
  { o with fields := o.fields.map fun f => { f with default := none } }

/-- A schema with collapsed histories and without defaults. -/
def Definitions.collapse (policy : ChangePolicy) (d : Definitions) : Definitions where
  objects := d.objects.map Object.withoutDefaults
  messages := d.messages.map (Message.collapse policy)

/-! ### The replay of additions -/

namespace SlotTable

/-- Additions of distinct fields fill a table in their order, with their places as indices. -/
theorem roster_additions (fs : List ResolvedField) (h : (fs.map (·.name)).Nodup) :
    ((fs.map fun f => Operation.add f.name f.type).foldl perform empty).roster =
      fs.zipIdx.map fun (f, i) => { name := f.name, index := i, type := f.type } := by
  induction fs using List.reverseRecOn with
  | nil => rfl
  | append_singleton fs f ih =>
    rw [List.map_append, List.nodup_append] at h
    have hroster := ih h.1
    have hreflects := reflects_performAll (fs.map fun f => Operation.add f.name f.type)
    rw [List.map_append, List.foldl_append, List.map_singleton, List.foldl_cons, List.foldl_nil,
      List.zipIdx_append, List.map_append]
    refine hreflects.wellFormed.roster_add.trans ?_
    rw [hreflects.nextIndex_eq, hroster]
    congr 1
    · refine List.filter_eq_self.2 fun s hs => ?_
      obtain ⟨⟨g, i⟩, hg, rfl⟩ := List.mem_map.1 hs
      have hmem : g ∈ fs := List.fst_mem_of_mem_zipIdx hg
      simpa using h.2.2 g.name (List.mem_map_of_mem hmem) f.name (by simp)
    · simp [List.countP_map, Function.comp_def, isAdd]

/-- The fields of a table whose roster is sorted are those of the roster. -/
theorem fields_eq_map_roster {t : SlotTable} (h : t.roster.Pairwise fun a b => a.index ≤ b.index) :
    t.fields = t.roster.map fun s => ⟨s.index, s.name, s.type⟩ := by
  have hsorted : t.roster.mergeSort (fun a b => a.index ≤ b.index) = t.roster :=
    List.mergeSort_of_pairwise (h.imp fun hab => decide_eq_true hab)
  exact congrArg (List.map _) hsorted

/-- A replay that only adds records no change of an unknown field. -/
theorem missesOf_eq_nil_of_isAdd (t : SlotTable) {steps : List Step}
    (h : ∀ s ∈ steps, s.operation.isAdd = true) : t.missesOf steps = [] := by
  induction steps generalizing t with
  | nil => rfl
  | cons s steps ih =>
    have hmiss : t.misses s.operation = false := by
      have hadd := h s List.mem_cons_self
      cases hop : s.operation with
      | add name type => rfl
      | remove name => rfl
      | change name type => simp [hop, isAdd] at hadd
    rw [missesOf, hmiss]
    exact ih _ fun s' hs' => h s' (List.mem_cons_of_mem s hs')

end SlotTable

/-! ### Collapsed messages -/

namespace FieldSet

variable (r : FieldSet)

theorem operations_toDelta : r.toDelta.operations = r.fields.map fun f => .add f.name f.type := by
  simp [toDelta, VersionDelta.operations, Function.comp_def]

/-- What does not depend on the indices is the same after renumbering. -/
theorem map_renumber {α : Type} {g : ResolvedField → α}
    (hg : ∀ f i, g { f with index := i } = g f) : r.renumber.fields.map g = r.fields.map g := by
  conv_rhs => rw [← List.zipIdx_map_fst 0 r.fields, List.map_map]
  rw [renumber, List.map_map]
  exact List.map_congr_left fun p _ => hg p.1 p.2

theorem names_renumber : r.renumber.names = r.names :=
  r.map_renumber fun _ _ => rfl

end FieldSet

namespace Message

variable {m : Message} {policy : ChangePolicy} {r : FieldSet}

/-- A message whose history is one delta that adds distinct fields has these fields. -/
theorem resolve_toDelta (m : Message) (h : r.names.Nodup) (hm : m.versions = [r.toDelta]) :
    m.resolve = r.renumber := by
  have hops : m.history.map Step.operation = r.fields.map fun f => .add f.name f.type := by
    rw [map_operation_history, operations, hm]
    simp [FieldSet.operations_toDelta]
  have hroster := SlotTable.roster_additions r.fields h
  rw [← hops, ← SlotTable.replay_eq_foldl] at hroster
  have hversion : m.latestMajor = r.version := by
    rw [latestMajor, hm]
    change (if 0 ≤ r.version then r.version else 0) = r.version
    exact if_pos UInt8.zero_le
  have hsorted : (SlotTable.empty.replay m.history).roster.Pairwise
      fun a b => a.index ≤ b.index := by
    rw [hroster, List.pairwise_map]
    have hrange : (r.fields.zipIdx.map Prod.snd).Pairwise (· < ·) := by
      rw [List.zipIdx_map_snd]
      exact List.pairwise_lt_range'
    exact (List.pairwise_map.1 hrange).imp Nat.le_of_lt
  rw [resolve, hversion, SlotTable.fields_eq_map_roster hsorted, hroster, List.map_map]
  rfl

theorem unknownChanges_toDelta (m : Message) (hm : m.versions = [r.toDelta]) :
    m.unknownChanges = [] := by
  refine SlotTable.missesOf_eq_nil_of_isAdd _ fun s hs => ?_
  simp only [history, hm, VersionDelta.steps, List.flatMap_cons, List.flatMap_nil, List.append_nil,
    FieldSet.operations_toDelta, List.map_map, List.mem_map] at hs
  obtain ⟨f, -, rfl⟩ := hs
  rfl

/-- Collapsing a history keeps the version and the fields, up to their indices. -/
theorem resolveWith_collapse (h : (m.resolveWith policy).outcome = .ok r) :
    ((m.collapse policy).resolveWith policy).outcome = .ok r.renumber := by
  have hm : (m.collapse policy).versions = [r.toDelta] := by rw [collapse, h]
  have hnames : r.names.Nodup := eq_resolve_of_resolveWith h ▸ m.nodup_names
  rw [← resolve_toDelta _ hnames hm]
  cases policy with
  | zeroIndex => rfl
  | reject => exact resolveWith_reject_eq_ok_iff.2 ⟨unknownChanges_toDelta _ hm, rfl⟩

theorem collapse_id_name (m : Message) (policy : ChangePolicy) :
    (m.collapse policy).id = m.id ∧ (m.collapse policy).name = m.name := by
  unfold collapse
  split <;> exact ⟨rfl, rfl⟩

end Message

/-! ### Plans -/

theorem FieldSet.get?_isSome_iff (r : FieldSet) (name : String) :
    (r.get? name).isSome ↔ name ∈ r.names := by
  simp [get?, names]

variable {s : GenerateSettings} {m : Message} {r : FieldSet}

/-- The plan of a message whose history can be replayed. -/
theorem PlannedMessage.outcome_make (h : (m.resolveWith s.policy).outcome = .ok r) :
    (PlannedMessage.make s m).outcome =
      if versionMember ∈ r.names then .error (.reservedField m.name versionMember)
      else .ok {
        id := m.id
        name := m.name
        version := r.version
        fields := r.fields.map fun f => .make s.matching f.name f.index f.type } := by
  simp only [PlannedMessage.make, Logged.outcome_bind, Logged.outcome_mapError, h]
  change (if (r.get? versionMember).isSome then _ else _ : Logged BuildError _).outcome = _
  simp only [r.get?_isSome_iff versionMember]
  split_ifs <;> rfl

/-- The slots of the fields that the history of a message leaves, in the order in which they were
made. -/
def Message.roster (m : Message) : List Slot :=
  (SlotTable.empty.replay m.history).roster

/-- What a planned message holds. -/
theorem PlannedMessage.make_eq_ok {pm : PlannedMessage}
    (h : (PlannedMessage.make s m).outcome = .ok pm) :
    versionMember ∉ m.resolve.names ∧ pm = {
      id := m.id
      name := m.name
      version := m.latestMajor
      fields := m.resolve.fields.map fun f => .make s.matching f.name f.index f.type } := by
  cases hresolve : (m.resolveWith s.policy).outcome with
  | error e =>
    simp only [PlannedMessage.make, Logged.outcome_bind, Logged.outcome_mapError, hresolve] at h
    cases h
  | ok r =>
    obtain rfl : r = m.resolve := Message.eq_resolve_of_resolveWith hresolve
    rw [outcome_make hresolve] at h
    split_ifs at h with hversion
    exact ⟨hversion, (Except.ok.inj h).symm⟩

/-- The fields of a planned message have different names, none of which is that of the version. -/
theorem PlannedMessage.names_of_make {pm : PlannedMessage}
    (h : (PlannedMessage.make s m).outcome = .ok pm) :
    (pm.fields.map (·.name)).Nodup ∧ versionMember ∉ pm.fields.map (·.name) := by
  obtain ⟨hversion, rfl⟩ := make_eq_ok h
  rw [List.map_map]
  exact ⟨m.nodup_names, hversion⟩

/-- A collapsed message is planned like the message itself, up to indices. -/
theorem PlannedMessage.make_collapse (h : (m.resolveWith s.policy).outcome = .ok r) :
    PlannedMessage.unplaced <$> (PlannedMessage.make s (m.collapse s.policy)).outcome =
      PlannedMessage.unplaced <$> (PlannedMessage.make s m).outcome := by
  obtain ⟨hid, hname⟩ := m.collapse_id_name s.policy
  rw [outcome_make h, outcome_make (Message.resolveWith_collapse h), hid, hname, r.names_renumber]
  split_ifs
  · rfl
  · refine congrArg Except.ok ?_
    simp only [PlannedMessage.unplaced, List.map_map, PlannedMessage.mk.injEq, true_and]
    exact ⟨rfl, r.map_renumber fun _ _ => rfl⟩

theorem PlannedObject.make_withoutDefaults (matching : Matching) (o : Object) :
    PlannedObject.make matching o.withoutDefaults = PlannedObject.make matching o := by
  simp only [PlannedObject.make, Object.withoutDefaults, List.zipIdx_map, List.map_map]
  rfl

theorem outcome_recordReuse (earlier : Option String) (m : Message) :
    (recordReuse earlier m).outcome = .ok () := by
  unfold recordReuse
  split <;> rfl

/-- The messages of a schema are planned one by one. -/
theorem outcome_planMessages (s : GenerateSettings) (seen : TagMap String) (ms : List Message) :
    (planMessages s seen ms).outcome = ms.mapM fun m => (PlannedMessage.make s m).outcome := by
  induction ms generalizing seen with
  | nil => rfl
  | cons m ms ih =>
    rw [List.mapM_cons, ← ih (seen.insert m.id m.name).2]
    simp only [planMessages, Logged.outcome_bind, outcome_recordReuse, Logged.outcome_pure]
    rfl

namespace Plan

theorem outcome_make (d : Definitions) (s : GenerateSettings) :
    (Plan.make d s).outcome =
      (fun messages => { objects := d.objects.map (PlannedObject.make s.matching), messages }) <$>
        d.messages.mapM fun m => (PlannedMessage.make s m).outcome := by
  simp only [Plan.make, Logged.outcome_bind, outcome_planMessages, Logged.outcome_pure]
  rfl

/-- The messages of a plan come from messages of the schema. -/
theorem exists_of_mem_messages {d : Definitions} {p : Plan}
    (h : (Plan.make d s).outcome = .ok p) {pm : PlannedMessage} (hpm : pm ∈ p.messages) :
    ∃ m ∈ d.messages, (PlannedMessage.make s m).outcome = .ok pm := by
  rw [outcome_make] at h
  obtain ⟨messages, hmessages, rfl⟩ := map_eq_ok_iff.1 h
  exact exists_of_mem_of_mapM hmessages hpm

/-- Where the live slots of all messages were made in the order of their indices, and none of them
for the version member, messages are planned slot by slot. -/
theorem make_of_inOrder {d : Definitions} (hpolicy : s.policy = .zeroIndex)
    (h : ∀ m ∈ d.messages, m.roster.Pairwise (fun a b => a.index ≤ b.index) ∧
      versionMember ∉ m.roster.map (·.name)) :
    (Plan.make d s).outcome = .ok {
      objects := d.objects.map (PlannedObject.make s.matching)
      messages := d.messages.map fun m => {
        id := m.id
        name := m.name
        version := m.latestMajor
        fields := m.roster.map fun x => .make s.matching x.name x.index x.type } } := by
  rw [outcome_make]
  refine map_eq_ok_iff.2 ⟨_, mapM_eq_ok_iff.2 (List.forall₂_map_right_iff.2
    (List.forall₂_same.2 fun m hm => ?_)), rfl⟩
  obtain ⟨hordered, hversion⟩ := h m hm
  have hfields := SlotTable.fields_of_pairwise hordered
  have hnames : m.resolve.names = m.roster.map (·.name) := by
    rw [FieldSet.names, Message.resolve, hfields, List.map_map]
    rfl
  rw [PlannedMessage.outcome_make (r := m.resolve) (by rw [hpolicy]; rfl), hnames,
    if_neg hversion, Message.resolve, hfields, List.map_map]
  rfl

/-- A collapsed schema has the same plan, up to the indices of fields, or the same error. -/
theorem make_collapse {d : Definitions}
    (h : ∀ m ∈ d.messages, ∃ r, (m.resolveWith s.policy).outcome = .ok r) :
    Plan.unplaced <$> (Plan.make (d.collapse s.policy) s).outcome =
      Plan.unplaced <$> (Plan.make d s).outcome := by
  have hobjects : (d.collapse s.policy).objects.map (PlannedObject.make s.matching) =
      d.objects.map (PlannedObject.make s.matching) := by
    rw [Definitions.collapse, List.map_map]
    exact List.map_congr_left fun o _ => PlannedObject.make_withoutDefaults s.matching o
  have hmessages : List.map PlannedMessage.unplaced <$> (d.collapse s.policy).messages.mapM
        (fun m => (PlannedMessage.make s m).outcome) =
      List.map PlannedMessage.unplaced <$>
        d.messages.mapM fun m => (PlannedMessage.make s m).outcome := by
    rw [Definitions.collapse, List.mapM_map, map_mapM, map_mapM]
    refine mapM_congr fun m hm => ?_
    obtain ⟨r, hr⟩ := h m hm
    exact PlannedMessage.make_collapse hr
  have hswap : ∀ (objects : List PlannedObject) (x : Except BuildError (List PlannedMessage)),
      Plan.unplaced <$> (fun messages => { objects, messages : Plan }) <$> x =
        (fun messages => { objects, messages : Plan }) <$>
          List.map PlannedMessage.unplaced <$> x := fun objects x => by
    cases x <;> rfl
  rw [outcome_make, outcome_make, hobjects, hswap, hswap, hmessages]

end Plan

/-! ### Backends -/

theorem Header.outcome_emit (d : Definitions) (s : Settings) :
    (Header.emit d s).outcome =
      (fun p => Header.renderLines (Header.lines s.header s.generate.rollback p)) <$>
        Plan.unplaced <$> (Plan.make d s.generate).outcome := by
  simp only [Header.emit, Logged.outcome_bind, Logged.outcome_pure, Functor.map_map,
    Header.lines_unplaced]
  rfl

theorem Module.outcome_emit (g : Grammar) (d : Definitions) (s : Settings) :
    (Module.emit g d s).outcome =
      (Plan.unplaced <$> (Plan.make d s.generate).outcome) >>= fun p =>
        (fun ts => Module.banner ++ Module.render ts ++ "\n") <$> Module.items g s p := by
  simp only [Module.emit, Logged.outcome_bind, Logged.outcome_pure, Logged.outcome_ofExcept,
    bind_map_left, Module.items_unplaced]
  rfl

/-- **Emission depends on a history only through the fields that it leaves.** Where all histories
can be replayed under the policy, both backends emit the same text from a schema and from the
schema with collapsed histories and without flags and defaults, or end with the same error. -/
theorem emit_collapse (g : Module.Grammar) (d : Definitions) (s : Settings)
    (h : ∀ m ∈ d.messages, ∃ r, (m.resolveWith s.generate.policy).outcome = .ok r) :
    (Backend.header.emit g (d.collapse s.generate.policy) s).outcome =
        (Backend.header.emit g d s).outcome ∧
      (Backend.module.emit g (d.collapse s.generate.policy) s).outcome =
        (Backend.module.emit g d s).outcome := by
  simp only [Backend.emit, Header.outcome_emit, Module.outcome_emit, Plan.make_collapse h,
    and_self]

/-- A schema with a default, a flag, a removed field and a change of type. -/
def chatSchema : Definitions where
  objects := [
    { name := "Room", fields := [{ name := "title", type := "String", default := some "lobby" }] }]
  messages := [Message.chat]

/-- The collapsed schema has none of these, and the same header and module are emitted from it. -/
theorem emit_collapse_chatSchema :
    let g := Module.standardGrammar
    let s : Settings := { generate := { policy := .reject } }
    let collapsed : Definitions := {
      objects := [{ name := "Room", fields := [{ name := "title", type := "String" }] }]
      messages := [{
        id := 7
        name := "Chat"
        versions := [{ major := 2, add := [{ name := "text", type := "String[]" }] }] }] }
    (∀ m ∈ chatSchema.messages, ∃ r, (m.resolveWith s.generate.policy).outcome = .ok r) ∧
      chatSchema.collapse s.generate.policy = collapsed ∧
      (Backend.header.emit g collapsed s).outcome = (Backend.header.emit g chatSchema s).outcome ∧
      (Backend.module.emit g collapsed s).outcome =
        (Backend.module.emit g chatSchema s).outcome := by
  intro g s collapsed
  have haccept : ∀ m ∈ chatSchema.messages,
      ∃ r, (m.resolveWith s.generate.policy).outcome = .ok r := by
    intro m hm
    rw [List.mem_singleton.1 hm]
    exact ⟨_, Message.resolveWith_reject_eq_ok_iff.2 ⟨by decide, rfl⟩⟩
  have hcollapse : chatSchema.collapse s.generate.policy = collapsed := by decide +kernel
  have hemit := emit_collapse g chatSchema s haccept
  rw [hcollapse] at hemit
  exact ⟨haccept, hcollapse, hemit⟩

end WireSchema
