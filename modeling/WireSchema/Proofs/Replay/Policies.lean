import Mathlib.Data.List.Induction
import WireSchema.Proofs.Replay.ClosedForm

/-!
# The two policies for a change of a field that is not live

The replay that inserts such a field and goes on, and the replay that fails, stay in step up to
the first change of a field that is not live. The second fails exactly where the first makes its
first record, and where the first makes no record the two end in the same table.

## Main results

* `SlotTable.replayStrict_cons`: one step of the replay that fails.
* `SlotTable.replayStrict_of_missesOf_nil`, `SlotTable.replayStrict_of_missesOf_cons`: a whole
  replay that fails, by the records of the replay that goes on.
* `SlotTable.exists_missesOf_eq_cons_iff`: where the first record is made.
* `SlotTable.creation?_eq_standingAdd?`: without records, every slot was made by an addition.
* `Message.policies_agree`: the two policies on a message.
-/

namespace WireSchema

open Operation

namespace SlotTable

variable {t : SlotTable} {s : Step} {steps rest : List Step}

theorem misses_change_iff {name type : String} :
    t.misses (.change name type) = true ↔ t.change name type = none := by
  simp [misses, change]

/-- A step of the replay that fails: it ends at a change of a field that is not live, and goes on
as the other replay does at any other operation. -/
theorem replayStrict_cons (t : SlotTable) (s : Step) (steps : List Step) :
    t.replayStrict (s :: steps) =
      if t.misses s.operation then .error s
      else (t.perform s.operation).replayStrict steps := by
  rw [replayStrict]
  cases hop : s.operation with
  | add name type => rfl
  | remove name => rfl
  | change name type =>
    cases hc : t.change name type with
    | none => simp [misses_change_iff.2 hc, hc]
    | some t' =>
      have hhit : ¬ t.misses (.change name type) = true := fun h => by
        simp [misses_change_iff.1 h] at hc
      simp [hhit, perform, hc]

/-- Without a change of a field that is not live, the two replays end in the same table. -/
theorem replayStrict_of_missesOf_nil (h : t.missesOf steps = []) :
    t.replayStrict steps = .ok (t.replay steps) := by
  induction steps generalizing t with
  | nil => rfl
  | cons s steps ih =>
    rw [missesOf] at h
    rw [replayStrict_cons]
    split_ifs at h with hs
    rw [if_neg hs]
    exact ih h

/-- The replay that fails ends at the first change of a field that is not live. -/
theorem replayStrict_of_missesOf_cons (h : t.missesOf steps = s :: rest) :
    t.replayStrict steps = .error s := by
  induction steps generalizing t with
  | nil => simp [missesOf] at h
  | cons s' steps ih =>
    rw [missesOf] at h
    rw [replayStrict_cons]
    split_ifs at h with hs
    · rw [if_pos hs, (List.cons.inj h).1]
    · rw [if_neg hs]
      exact ih h

theorem missesOf_append (t : SlotTable) (steps steps' : List Step) :
    t.missesOf (steps ++ steps') = t.missesOf steps ++ (t.replay steps).missesOf steps' := by
  induction steps generalizing t with
  | nil => rfl
  | cons s steps ih =>
    rw [List.cons_append, missesOf, missesOf, ih]
    split_ifs <;> rfl

/-- The first record is made at a step before which no record is made, and which changes a field
that is not live there. -/
theorem exists_missesOf_eq_cons_iff :
    (∃ rest, t.missesOf steps = s :: rest) ↔
      ∃ before after, steps = before ++ s :: after ∧ t.missesOf before = [] ∧
        (t.replay before).misses s.operation = true := by
  constructor
  · rintro ⟨rest, h⟩
    induction steps generalizing t with
    | nil => simp [missesOf] at h
    | cons s' steps ih =>
      rw [missesOf] at h
      split_ifs at h with hs
      · obtain ⟨rfl, -⟩ := List.cons.inj h
        exact ⟨[], steps, rfl, rfl, hs⟩
      · obtain ⟨before, after, rfl, hnone, hmiss⟩ := ih h
        exact ⟨s' :: before, after, rfl, by rwa [missesOf, if_neg hs], hmiss⟩
  · rintro ⟨before, after, rfl, hnone, hmiss⟩
    exact ⟨_, by rw [missesOf_append, hnone, List.nil_append, missesOf, if_pos hmiss]⟩

theorem misses_change_iff_creation? {steps : List Step} {name type : String} :
    (empty.replay steps).misses (.change name type) = true ↔
      creation? (steps.map Step.operation) name = none := by
  rw [← Option.not_isSome_iff_eq_none, ← (reflects_replay steps).position?_isSome_iff]
  simp [misses]

/-- After a history, only a change of a field that is not live is recorded. -/
theorem misses_iff_not_isLive {steps : List Step} {op : Operation} :
    (empty.replay steps).misses op = true ↔
      (∃ type, op = .change op.name type) ∧ ¬ IsLive (steps.map Step.operation) op.name := by
  cases op with
  | add name type => simp [misses]
  | remove name => simp [misses]
  | change name type =>
    rw [misses_change_iff_creation?, isLive_iff, Option.not_isSome_iff_eq_none]
    exact (and_iff_right ⟨type, rfl⟩).symm

/-- Without a change of a field that is not live, every slot was made by an addition. -/
theorem creation?_eq_standingAdd? (h : empty.missesOf steps = []) (name : String) :
    creation? (steps.map Step.operation) name = standingAdd? (steps.map Step.operation) name := by
  induction steps using List.reverseRecOn with
  | nil => rfl
  | append_singleton steps s ih =>
    rw [missesOf_append, List.append_eq_nil_iff] at h
    have hold := ih h.1
    rw [List.map_append, List.map_singleton, creation?_concat, standingAdd?_concat, hold]
    split_ifs with hadd hremove hchange
    · rfl
    · rfl
    · -- the change hits a live slot, or else it would be recorded
      obtain ⟨type, hop⟩ := exists_eq_change_of_changes hchange
      have hhit : creation? (steps.map Step.operation) name ≠ none := fun hnone => by
        have hmiss : (empty.replay steps).misses s.operation = true :=
          hop ▸ misses_change_iff_creation?.2 hnone
        simp [missesOf, hmiss] at h
      obtain ⟨i, hi⟩ := Option.ne_none_iff_exists'.1 (hold ▸ hhit)
      rw [hi, Option.some_or]
    · exact Option.or_none

end SlotTable

namespace Message

variable (m : Message)

theorem resolveStrict_of_unknownChanges_nil (h : m.unknownChanges = []) :
    m.resolveStrict = .ok m.resolve := by
  rw [resolveStrict, SlotTable.replayStrict_of_missesOf_nil h]
  rfl

theorem resolveStrict_of_unknownChanges_cons {s : Step} {rest : List Step}
    (h : m.unknownChanges = s :: rest) :
    m.resolveStrict = .error
      { message := m.name, field := s.operation.name, major := s.major, minor := s.minor } := by
  rw [resolveStrict, SlotTable.replayStrict_of_missesOf_cons h]

variable {m} in
/-- The replay that fails succeeds exactly if there is no change of an unknown field. -/
theorem resolveWith_reject_eq_ok_iff {r : FieldSet} :
    (m.resolveWith .reject).outcome = .ok r ↔ m.unknownChanges = [] ∧ r = m.resolve := by
  change m.resolveStrict = .ok r ↔ _
  cases h : m.unknownChanges with
  | nil => simp [m.resolveStrict_of_unknownChanges_nil h, eq_comm]
  | cons s rest => simp [m.resolveStrict_of_unknownChanges_cons h]

variable {m} in
/-- A replay under a policy gives the fields of the replay that does not fail, if any. -/
theorem eq_resolve_of_resolveWith {policy : ChangePolicy} {r : FieldSet}
    (h : (m.resolveWith policy).outcome = .ok r) : r = m.resolve := by
  cases policy with
  | zeroIndex => exact (Except.ok.inj h).symm
  | reject => exact (resolveWith_reject_eq_ok_iff.1 h).2

variable {m} in
/-- The replay that fails ends at the first change of an unknown field. -/
theorem resolveWith_reject_eq_error_iff {e : UnknownChange} :
    (m.resolveWith .reject).outcome = .error e ↔ ∃ s rest, m.unknownChanges = s :: rest ∧
      e = { message := m.name, field := s.operation.name, major := s.major, minor := s.minor } := by
  change m.resolveStrict = .error e ↔ _
  cases h : m.unknownChanges with
  | nil => simp [m.resolveStrict_of_unknownChanges_nil h]
  | cons s rest => simp [m.resolveStrict_of_unknownChanges_cons h, eq_comm]

variable {m} in
/-- The replay that goes on records the changes of unknown fields and nothing else. -/
theorem unknownChanges_eq_nil_iff :
    m.unknownChanges = [] ↔
      ∀ version field, .unknownChange version field ∉ (m.resolveWith .zeroIndex).log := by
  cases h : m.unknownChanges with
  | nil => simp [resolveWith, h]
  | cons s rest =>
    refine iff_of_false (by simp) fun hlog => hlog s.label s.operation.name ?_
    simp [resolveWith, h]

/-- **The two policies agree.** The replay that fails succeeds exactly if the replay that goes on
makes no record of a change of an unknown field, and then both give the same fields. Otherwise its
error names the message, and the field and the version of the first record, which is made at the
first step to change a field that is not live. -/
theorem policies_agree :
    (∀ r, (m.resolveWith .reject).outcome = .ok r ↔
      (∀ version field, .unknownChange version field ∉ (m.resolveWith .zeroIndex).log) ∧
      (m.resolveWith .zeroIndex).outcome = .ok r) ∧
    ∀ e, (m.resolveWith .reject).outcome = .error e ↔
      ∃ before s after, m.history = before ++ s :: after ∧
        SlotTable.empty.missesOf before = [] ∧
        (∃ type, s.operation = .change s.operation.name type) ∧
        ¬ IsLive (before.map Step.operation) s.operation.name ∧
        (m.resolveWith .zeroIndex).log.head? = some (.unknownChange s.label s.operation.name) ∧
        e = {
          message := m.name
          field := s.operation.name
          major := s.major
          minor := s.minor } := by
  refine ⟨fun r => ?_, fun e => ?_⟩
  · rw [resolveWith_reject_eq_ok_iff, unknownChanges_eq_nil_iff]
    exact and_congr_right fun _ => ⟨fun h => h ▸ rfl, fun h => (Except.ok.inj h).symm⟩
  · rw [resolveWith_reject_eq_error_iff]
    constructor
    · rintro ⟨s, rest, h, rfl⟩
      obtain ⟨before, after, hsplit, hnone, hmiss⟩ :=
        SlotTable.exists_missesOf_eq_cons_iff.1 ⟨rest, h⟩
      obtain ⟨hchange, hdead⟩ := SlotTable.misses_iff_not_isLive.1 hmiss
      exact ⟨before, s, after, hsplit, hnone, hchange, hdead, by simp [resolveWith, h], rfl⟩
    · rintro ⟨before, s, after, hsplit, hnone, hchange, hdead, -, rfl⟩
      have hmiss := SlotTable.misses_iff_not_isLive.2 ⟨hchange, hdead⟩
      obtain ⟨rest, h⟩ :=
        SlotTable.exists_missesOf_eq_cons_iff.2 ⟨before, after, hsplit, hnone, hmiss⟩
      exact ⟨s, rest, h, rfl⟩

end Message

end WireSchema
