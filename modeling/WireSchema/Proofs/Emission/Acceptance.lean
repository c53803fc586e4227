import WireSchema.Proofs.Emission.Collapse

/-!
# Which schemas a header is emitted from

A header can fail to be emitted for two reasons only. Under the policy that rejects, a history may
change a field that is not live; and under any policy, a history may leave a field with the name
of the version member. Both are told from the operations of the histories alone. The error is that
of the first message with such a history, and within a message the first reason counts before the
second.

## Main definitions

* `Operation.ChangesLive`: every change targets a field that is live at that point.
* `Operation.FreesVersion`: the last mention of the version member, if any, is a removal.
* `Message.IsAcceptable`, `Message.RefusedFor`: the histories that are accepted, and the errors of
  the others.
* `Message.outline`: the operations of a history without their types.

## Main results

* `SlotTable.missesOf_eq_nil_iff`: a replay makes no record if all changes target live fields.
* `PlannedMessage.exists_make_iff`, `PlannedMessage.make_eq_error_iff`: the outcome for a message.
* `Header.emit_outcome_iff`: the outcome for a schema.
-/

namespace WireSchema

/-! ### Conditions on operations -/

namespace Operation

/-- Every change targets a field that is live after the operations before it. -/
def ChangesLive (ops : List Operation) : Prop :=
  ∀ before name type after, ops = before ++ change name type :: after → IsLive before name

/-- The last operation that mentions the version member, if any, is a removal. -/
def FreesVersion (ops : List Operation) : Prop :=
  ∀ op, lastMention? ops versionMember = some op → op.isRemove = true

/-- An operation without the type that it gives to a field. -/
def withoutType : Operation → Operation
  | add name _ => add name ""
  | remove name => remove name
  | change name _ => change name ""

variable {ops : List Operation} {op : Operation}

theorem changesLive_concat_iff :
    ChangesLive (ops ++ [op]) ↔
      ChangesLive ops ∧ ∀ name type, op = change name type → IsLive ops name := by
  constructor
  · intro h
    refine ⟨fun before name type after hsplit => ?_, fun name type hop => ?_⟩
    · exact h before name type (after ++ [op]) (by rw [hsplit, List.append_assoc]; rfl)
    · exact h ops name type [] (by rw [hop])
  · rintro ⟨hops, hlast⟩ before name type after hsplit
    -- the change is the last operation, or one of those before it
    rcases List.eq_nil_or_concat after with rfl | ⟨after, last, rfl⟩
    · obtain ⟨rfl, hop⟩ := List.append_inj' hsplit rfl
      exact hlast name type (List.singleton_injective hop)
    · rw [List.concat_eq_append, ← List.cons_append, ← List.append_assoc] at hsplit
      exact hops before name type after (List.append_inj' hsplit rfl).1

theorem freesVersion_iff : FreesVersion ops ↔ ¬ IsLive ops versionMember := by
  simp only [FreesVersion, IsLive, not_exists, not_and, Bool.not_eq_false]

@[simp] theorem withoutType_name (op : Operation) : op.withoutType.name = op.name := by
  cases op <;> rfl

@[simp] theorem withoutType_isRemove (op : Operation) :
    op.withoutType.isRemove = op.isRemove := by
  cases op <;> rfl

/-- Whether a field is live does not depend on types. -/
theorem isLive_map_withoutType (ops : List Operation) (name : String) :
    IsLive (ops.map withoutType) name ↔ IsLive ops name := by
  have hmention : lastMention? (ops.map withoutType) name =
      (lastMention? ops name).map withoutType := by
    simp only [lastMention?, List.findRev?_eq_find?_reverse, ← List.map_reverse, List.find?_map,
      Function.comp_def, withoutType_name]
  simp [IsLive, hmention]

theorem changesLive_map_withoutType (ops : List Operation) :
    ChangesLive (ops.map withoutType) ↔ ChangesLive ops := by
  induction ops using List.reverseRecOn with
  | nil => rfl
  | append_singleton ops op ih =>
    rw [List.map_append, List.map_singleton, changesLive_concat_iff, changesLive_concat_iff, ih]
    simp only [isLive_map_withoutType]
    cases op <;> simp [withoutType]

end Operation

open Operation

/-! ### The outcome for a message -/

/-- A replay makes no record exactly if every change targets a live field. -/
theorem SlotTable.missesOf_eq_nil_iff (steps : List Step) :
    empty.missesOf steps = [] ↔ ChangesLive (steps.map Step.operation) := by
  induction steps using List.reverseRecOn with
  | nil => simp [missesOf, ChangesLive]
  | append_singleton steps s ih =>
    rw [missesOf_append, List.append_eq_nil_iff, List.map_append, List.map_singleton,
      changesLive_concat_iff, ih]
    refine and_congr_right fun _ => ?_
    have hlast : (empty.replay steps).missesOf [s] = [] ↔
        ¬ (empty.replay steps).misses s.operation = true := by
      simp [missesOf]
    rw [hlast, misses_iff_not_isLive]
    cases s.operation <;> simp [Operation.name]

namespace Message

variable {m : Message} {policy : ChangePolicy}

/-- The history of the message can be replayed under the policy. -/
def IsReplayable (policy : ChangePolicy) (m : Message) : Prop :=
  policy = .zeroIndex ∨ ChangesLive m.operations

/-- The history of the message can be replayed under the policy and leaves the name of the version
member free. -/
def IsAcceptable (policy : ChangePolicy) (m : Message) : Prop :=
  m.IsReplayable policy ∧ FreesVersion m.operations

/-- The error for a message that is not acceptable. -/
inductive RefusedFor (policy : ChangePolicy) (m : Message) : BuildError → Prop
  /-- The history changes a field that is not live; the error names the first such change. -/
  | strayChange {before after : List Step} {s : Step} {name type : String}
      (rejects : policy = .reject) (split : m.history = before ++ s :: after)
      (first : ChangesLive (before.map Step.operation)) (changes : s.operation = change name type)
      (stray : ¬ IsLive (before.map Step.operation) name) :
      RefusedFor policy m (.unknownChange {
        message := m.name
        field := name
        major := s.major
        minor := s.minor })
  /-- The history leaves a field that is called like the version member. -/
  | reserved (replayable : m.IsReplayable policy) (live : ¬ FreesVersion m.operations) :
      RefusedFor policy m (.reservedField m.name versionMember)

/-- The operations of the history without their types. -/
def outline (m : Message) : List Operation :=
  m.operations.map withoutType

/-- Whether a message is acceptable is told from the policy and its outline. -/
theorem isAcceptable_iff_outline :
    m.IsAcceptable policy ↔
      (policy = .zeroIndex ∨ ChangesLive m.outline) ∧ FreesVersion m.outline := by
  rw [IsAcceptable, IsReplayable, outline, changesLive_map_withoutType, freesVersion_iff,
    freesVersion_iff, isLive_map_withoutType]

theorem unknownChanges_eq_nil_iff_changesLive :
    m.unknownChanges = [] ↔ ChangesLive m.operations := by
  rw [unknownChanges, SlotTable.missesOf_eq_nil_iff, map_operation_history]

theorem freesVersion_iff_notMem_names :
    FreesVersion m.operations ↔ versionMember ∉ m.resolve.names := by
  rw [freesVersion_iff, mem_names_iff, isLive_iff]

theorem resolveWith_of_isReplayable (h : m.IsReplayable policy) :
    (m.resolveWith policy).outcome = .ok m.resolve := by
  cases policy with
  | zeroIndex => rfl
  | reject =>
    have hlive : ChangesLive m.operations := h.resolve_left nofun
    exact resolveWith_reject_eq_ok_iff.2 ⟨unknownChanges_eq_nil_iff_changesLive.2 hlive, rfl⟩

/-- A message is acceptable, or it is refused for a reason. -/
theorem isAcceptable_or_refusedFor (policy : ChangePolicy) (m : Message) :
    m.IsAcceptable policy ∨ ∃ e, m.RefusedFor policy e := by
  by_cases hreplayable : m.IsReplayable policy
  · by_cases hversion : FreesVersion m.operations
    · exact .inl ⟨hreplayable, hversion⟩
    · exact .inr ⟨_, .reserved hreplayable hversion⟩
  · obtain ⟨hpolicy, hstray⟩ := not_or.1 hreplayable
    have hrejects : policy = .reject := by cases policy <;> trivial
    -- the first record of the replay that goes on is made at the first stray change
    rw [← unknownChanges_eq_nil_iff_changesLive] at hstray
    obtain ⟨s, rest, hmisses⟩ := List.exists_cons_of_ne_nil hstray
    obtain ⟨before, after, hsplit, hnone, hmiss⟩ :=
      SlotTable.exists_missesOf_eq_cons_iff.1 ⟨rest, hmisses⟩
    obtain ⟨⟨type, hchange⟩, hdead⟩ := SlotTable.misses_iff_not_isLive.1 hmiss
    have hfirst := (SlotTable.missesOf_eq_nil_iff before).1 hnone
    exact .inr ⟨_, .strayChange hrejects hsplit hfirst hchange hdead⟩

/-- The replay that fails ends at the first change of a field that is not live. -/
theorem resolveWith_reject_of_stray {before after : List Step} {s : Step} {name type : String}
    (hsplit : m.history = before ++ s :: after)
    (hfirst : ChangesLive (before.map Step.operation)) (hchange : s.operation = change name type)
    (hstray : ¬ IsLive (before.map Step.operation) name) :
    (m.resolveWith .reject).outcome =
      .error { message := m.name, field := name, major := s.major, minor := s.minor } := by
  have hname : s.operation.name = name := by rw [hchange, Operation.name]
  have hmiss : (SlotTable.empty.replay before).misses s.operation = true :=
    SlotTable.misses_iff_not_isLive.2 ⟨⟨type, by rw [hname, hchange]⟩, by rwa [hname]⟩
  obtain ⟨rest, hmisses⟩ := SlotTable.exists_missesOf_eq_cons_iff.2
    ⟨before, after, hsplit, (SlotTable.missesOf_eq_nil_iff before).2 hfirst, hmiss⟩
  exact resolveWith_reject_eq_error_iff.2 ⟨s, rest, hmisses, by rw [hname]⟩

end Message

namespace PlannedMessage

variable {s : GenerateSettings} {m : Message}

theorem make_of_isAcceptable (h : m.IsAcceptable s.policy) :
    ∃ pm, (PlannedMessage.make s m).outcome = .ok pm := by
  have hmake := outcome_make (Message.resolveWith_of_isReplayable h.1)
  rw [if_neg (Message.freesVersion_iff_notMem_names.1 h.2)] at hmake
  exact ⟨_, hmake⟩

theorem make_of_refusedFor {e : BuildError} (h : m.RefusedFor s.policy e) :
    (PlannedMessage.make s m).outcome = .error e := by
  cases h with
  | strayChange rejects split first changes stray =>
    have hresolve := Message.resolveWith_reject_of_stray split first changes stray
    simp only [PlannedMessage.make, Logged.outcome_bind, Logged.outcome_mapError, rejects, hresolve]
    rfl
  | reserved replayable live =>
    have hmem : versionMember ∈ m.resolve.names :=
      not_not.1 (mt Message.freesVersion_iff_notMem_names.2 live)
    rw [outcome_make (Message.resolveWith_of_isReplayable replayable), if_pos hmem]

/-- A message is planned exactly if it is acceptable. -/
theorem exists_make_iff :
    (∃ pm, (PlannedMessage.make s m).outcome = .ok pm) ↔ m.IsAcceptable s.policy := by
  refine ⟨fun ⟨pm, hpm⟩ => ?_, make_of_isAcceptable⟩
  refine (Message.isAcceptable_or_refusedFor s.policy m).resolve_right fun ⟨e, he⟩ => ?_
  simp [make_of_refusedFor he] at hpm

/-- The error for a message that cannot be planned. -/
theorem make_eq_error_iff {e : BuildError} :
    (PlannedMessage.make s m).outcome = .error e ↔ m.RefusedFor s.policy e := by
  refine ⟨fun h => ?_, make_of_refusedFor⟩
  rcases Message.isAcceptable_or_refusedFor s.policy m with haccept | ⟨e', he'⟩
  · obtain ⟨pm, hpm⟩ := make_of_isAcceptable haccept
    simp [h] at hpm
  · rw [make_of_refusedFor he'] at h
    exact Except.error.inj h ▸ he'

end PlannedMessage

/-! ### The outcome for a schema -/

namespace Header

theorem outcome_emit_eq_map (g : Module.Grammar) (d : Definitions) (s : Settings) :
    (Backend.header.emit g d s).outcome =
      (fun messages => renderLines (lines s.header s.generate.rollback
        { objects := d.objects.map (PlannedObject.make s.generate.matching), messages })) <$>
        d.messages.mapM fun m => (PlannedMessage.make s.generate m).outcome := by
  simp only [Backend.emit, emit, Logged.outcome_bind, Logged.outcome_pure, Plan.outcome_make,
    bind_map_left]
  rfl

/-- A header is emitted exactly if every message of the schema is acceptable. -/
theorem exists_emit_iff (g : Module.Grammar) (d : Definitions) (s : Settings) :
    (∃ text, (Backend.header.emit g d s).outcome = .ok text) ↔
      ∀ m ∈ d.messages, m.IsAcceptable s.generate.policy := by
  simp only [outcome_emit_eq_map, map_eq_ok_iff, ← PlannedMessage.exists_make_iff]
  constructor
  · rintro ⟨text, messages, hmessages, -⟩ m hm
    have hmake := exists_of_mem_left_of_mapM hmessages hm
    exact hmake
  · intro h
    obtain ⟨messages, hmessages⟩ := exists_mapM_eq_ok h
    exact ⟨_, messages, hmessages, rfl⟩

/-- **Which schemas a header is emitted from.** A header is emitted exactly if every message of
the schema is acceptable: the policy inserts missing fields, or every change of its history targets
a field that is live at that point; and the last operation of its history that mentions the
version member, if any, is a removal. Otherwise the error is that of the first message that is not
acceptable. Nothing else than the policy and the outlines of the histories can make a difference. -/
theorem emit_outcome_iff (g : Module.Grammar) (d : Definitions) (s : Settings) :
    ((∃ text, (Backend.header.emit g d s).outcome = .ok text) ↔
      ∀ m ∈ d.messages, m.IsAcceptable s.generate.policy) ∧
    (∀ e, (Backend.header.emit g d s).outcome = .error e ↔
      ∃ before m after, d.messages = before ++ m :: after ∧
        (∀ m' ∈ before, m'.IsAcceptable s.generate.policy) ∧
        m.RefusedFor s.generate.policy e) ∧
    ∀ (g' : Module.Grammar) (d' : Definitions) (s' : Settings),
      s'.generate.policy = s.generate.policy →
      d'.messages.map Message.outline = d.messages.map Message.outline →
      ((∃ text, (Backend.header.emit g' d' s').outcome = .ok text) ↔
        ∃ text, (Backend.header.emit g d s).outcome = .ok text) := by
  refine ⟨exists_emit_iff g d s, fun e => ?_, fun g' d' s' hpolicy houtlines => ?_⟩
  · rw [outcome_emit_eq_map, map_eq_error_iff, mapM_eq_error_iff]
    simp only [PlannedMessage.exists_make_iff, PlannedMessage.make_eq_error_iff]
  · have hmessages : ∀ d : Definitions, (∀ m ∈ d.messages, m.IsAcceptable s.generate.policy) ↔
        ∀ outline ∈ d.messages.map Message.outline,
          (s.generate.policy = .zeroIndex ∨ ChangesLive outline) ∧ FreesVersion outline := by
      simp only [Message.isAcceptable_iff_outline, List.forall_mem_map, implies_true]
    rw [exists_emit_iff, exists_emit_iff, hpolicy, hmessages, hmessages, houtlines]

end Header

end WireSchema
