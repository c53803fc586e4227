import Mathlib.Data.List.Sort
import WireSchema.Proofs.Replay.Lifetime
import WireSchema.Proofs.Replay.LiveSlots

/-!
# The closed form of a replay

The fields that a replay leaves can be read off the sequence of operations, without replaying it.
The link is one invariant: after any sequence of operations, the roster of the slot table lists
exactly the live fields, with the type and the index that the sequence gives them, in the order of
the operations that made their slots. Sorting a roster by index keeps that order among slots of
one index.

## Main definitions

* `SlotTable.Reflects`: the invariant that ties a table to the operations performed so far.

## Main results

* `SlotTable.Reflects.perform`, `SlotTable.reflects_performAll`: the invariant along a replay.
* `pairwise_mergeSort_key`: sorting by a key keeps the order of the input where keys are equal.
* `Message.resolve_closedForm`: the closed form of a replay.
-/

namespace WireSchema

open Operation

/-! ### The slot that operations leave -/

/-- A slot is left by a sequence of operations when its field is live after them and it has the
index and the type that they give to the field. -/
def Slot.IsLeftBy (s : Slot) (ops : List Operation) : Prop :=
  s.removed = false ∧ (creation? ops s.name).isSome ∧
    s.index = wireIndex ops s.name ∧ lastType? ops s.name = some s.type

namespace Slot.IsLeftBy

variable {s : Slot} {ops : List Operation} {op : Operation} {name type : String}

theorem concat_iff_of_name_ne (h : op.name ≠ s.name) :
    s.IsLeftBy (ops ++ [op]) ↔ s.IsLeftBy ops := by
  obtain ⟨hcreation, hindex, htype⟩ := concat_of_name_ne ops h
  rw [IsLeftBy, hcreation, hindex, htype, IsLeftBy]

/-- Operations that leave a field live leave one slot of its name. -/
theorem iff_eq {i : Nat} (h : s.name = name) (hlive : (creation? ops name).isSome)
    (hindex : wireIndex ops name = i) (htype : lastType? ops name = some type) :
    s.IsLeftBy ops ↔ s = { name := name, index := i, type := type } := by
  obtain ⟨n, j, ty, r⟩ := s
  obtain rfl : n = name := h
  simp only [IsLeftBy, hindex, htype, Option.some.injEq, Slot.mk.injEq, true_and]
  constructor
  · rintro ⟨hremoved, -, hj, hty⟩
    exact ⟨hj, hty.symm, hremoved⟩
  · rintro ⟨hj, hty, hremoved⟩
    exact ⟨hremoved, hlive, hj, hty.symm⟩

theorem concat_add_iff (h : s.name = name) :
    s.IsLeftBy (ops ++ [.add name type]) ↔
      s = { name := name, index := ops.countP isAdd, type := type } :=
  iff_eq h (by simp [creation?_concat, adds]) (by simp [wireIndex_concat, adds])
    (by simp [lastType?_concat, typeFor?])

theorem not_concat_remove (h : s.name = name) : ¬ s.IsLeftBy (ops ++ [.remove name]) := by
  rintro ⟨-, hcreation, -⟩
  rw [creation?_concat] at hcreation
  simp [adds, removes, h] at hcreation

/-- A change of a live field leaves its slot under the new type. -/
theorem concat_change_iff (h : s.name = name) (hlive : (creation? ops name).isSome) :
    s.IsLeftBy (ops ++ [.change name type]) ↔
      s = { name := name, index := wireIndex ops name, type := type } :=
  iff_eq h (by rwa [creation?_concat_change hlive])
    (by simp [wireIndex_concat, adds, removes]) (by simp [lastType?_concat, typeFor?])

/-- A change of a field that is not live leaves a slot at index 0. -/
theorem concat_change_iff_of_none (h : s.name = name) (hdead : creation? ops name = none) :
    s.IsLeftBy (ops ++ [.change name type]) ↔ s = { name := name, index := 0, type := type } :=
  iff_eq h (by simp [creation?_concat, adds, removes, changes, hdead])
    (by simp [wireIndex_concat, adds, removes, wireIndex_of_creation?_none hdead])
    (by simp [lastType?_concat, typeFor?])

end Slot.IsLeftBy

/-! ### The invariant of a replay -/

namespace SlotTable

variable {t t' : SlotTable} {ops : List Operation} {name type : String}

/-- A table reflects a sequence of operations when its roster lists the slots that they leave, in
the order in which these were made. -/
structure Reflects (t : SlotTable) (ops : List Operation) : Prop where
  wellFormed : t.WellFormed
  nextIndex_eq : t.nextIndex = ops.countP isAdd
  mem_roster_iff : ∀ s, s ∈ t.roster ↔ s.IsLeftBy ops
  ordered : t.roster.Pairwise fun a b => creation? ops a.name < creation? ops b.name

theorem reflects_empty : empty.Reflects [] where
  wellFormed := wellFormed_empty
  nextIndex_eq := rfl
  mem_roster_iff s := by
    simp [roster, empty, Slot.IsLeftBy, creation?, standingAdd?, firstChange?, lastPosition?]
  ordered := List.Pairwise.nil

/-- An operation that mentions none of the fields keeps the order of their slots. -/
theorem pairwise_concat {l : List Slot} {op : Operation} (hne : ∀ s ∈ l, op.name ≠ s.name)
    (h : l.Pairwise fun a b => creation? ops a.name < creation? ops b.name) :
    l.Pairwise fun a b => creation? (ops ++ [op]) a.name < creation? (ops ++ [op]) b.name := by
  refine List.Pairwise.imp_of_mem (fun {a b} ha hb hlt => ?_) h
  rwa [(concat_of_name_ne ops (hne a ha)).1, (concat_of_name_ne ops (hne b hb)).1]

/-- A slot made by the last operation stands after all others. -/
theorem pairwise_concat_append {l : List Slot} {op : Operation} {s : Slot}
    (hne : ∀ s ∈ l, op.name ≠ s.name)
    (h : l.Pairwise fun a b => creation? ops a.name < creation? ops b.name)
    (hs : creation? (ops ++ [op]) s.name = some ops.length) :
    (l ++ [s]).Pairwise fun a b =>
      creation? (ops ++ [op]) a.name < creation? (ops ++ [op]) b.name := by
  rw [List.pairwise_append]
  refine ⟨pairwise_concat hne h, List.pairwise_singleton _ _, ?_⟩
  intro a ha b hb
  rw [List.mem_singleton.1 hb, hs, (concat_of_name_ne ops (hne a ha)).1]
  cases hc : creation? ops a.name with
  | none => exact Option.none_lt_some
  | some i => exact Option.some_lt_some.2 (creation?_lt hc)

/-- The slots that are left of a roster when a field is taken out do not have its name. -/
theorem name_ne_of_mem_filter {l : List Slot} {s : Slot} (hs : s ∈ l.filter (·.name != name)) :
    name ≠ s.name := by
  have := (List.mem_filter.1 hs).2
  exact fun heq => by simp [heq] at this

theorem Reflects.add (h : t.Reflects ops) :
    (t.add name type).2.Reflects (ops ++ [.add name type]) := by
  refine ⟨h.wellFormed.add, ?_, ?_, ?_⟩
  · rw [List.countP_append, ← h.nextIndex_eq]
    rfl
  · intro s
    rw [h.wellFormed.roster_add, List.mem_append, List.mem_filter, h.mem_roster_iff,
      List.mem_singleton, h.nextIndex_eq]
    by_cases hs : s.name = name
    · rw [Slot.IsLeftBy.concat_add_iff hs]
      simp [hs]
    · rw [Slot.IsLeftBy.concat_iff_of_name_ne (Ne.symm hs)]
      have hne : s ≠ { name := name, index := ops.countP isAdd, type := type } :=
        fun heq => hs (heq ▸ rfl)
      simp [hs, hne]
  · rw [h.wellFormed.roster_add]
    refine pairwise_concat_append (fun s hs => name_ne_of_mem_filter hs) (h.ordered.filter _) ?_
    simp [creation?_concat, adds]

theorem Reflects.remove (h : t.Reflects ops) :
    (t.remove name).2.Reflects (ops ++ [.remove name]) := by
  refine ⟨h.wellFormed.remove, ?_, ?_, ?_⟩
  · rw [List.countP_append, ← h.nextIndex_eq]
    unfold SlotTable.remove
    split <;> rfl
  · intro s
    rw [h.wellFormed.roster_remove, List.mem_filter, h.mem_roster_iff]
    by_cases hs : s.name = name
    · simp [hs, Slot.IsLeftBy.not_concat_remove hs]
    · rw [Slot.IsLeftBy.concat_iff_of_name_ne (Ne.symm hs)]
      simp [hs]
  · rw [h.wellFormed.roster_remove]
    exact pairwise_concat (fun s hs => name_ne_of_mem_filter hs) (h.ordered.filter _)

/-- A field is found in a table exactly if it is live. -/
theorem Reflects.position?_isSome_iff (h : t.Reflects ops) :
    (t.position? name).isSome ↔ (creation? ops name).isSome := by
  rw [h.wellFormed.position?_isSome_iff]
  constructor
  · rintro ⟨s, hs, rfl⟩
    exact ((h.mem_roster_iff s).1 hs).2.1
  · intro hlive
    obtain ⟨type, htype⟩ := Option.isSome_iff_exists.1 (lastType?_isSome hlive)
    exact ⟨{ name := name, index := wireIndex ops name, type := type },
      (h.mem_roster_iff _).2 ⟨rfl, hlive, rfl, htype⟩, rfl⟩

theorem Reflects.change (h : t.Reflects ops) (hc : t.change name type = some t') :
    t'.Reflects (ops ++ [.change name type]) := by
  have hlive : (creation? ops name).isSome := by
    obtain ⟨pos, hpos, -⟩ := Option.map_eq_some_iff.1 hc
    exact h.position?_isSome_iff.1 (by simp [hpos])
  refine ⟨h.wellFormed.change hc, ?_, ?_, ?_⟩
  · obtain ⟨pos, -, rfl⟩ := Option.map_eq_some_iff.1 hc
    rw [List.countP_append, ← h.nextIndex_eq]
    rfl
  · intro s
    rw [h.wellFormed.roster_change hc, List.mem_map]
    by_cases hs : s.name = name
    · rw [Slot.IsLeftBy.concat_change_iff hs hlive]
      constructor
      · rintro ⟨s₀, hs₀, rfl⟩
        obtain ⟨hremoved, -, hindex, -⟩ := (h.mem_roster_iff s₀).1 hs₀
        rw [Slot.retype_name] at hs
        rw [Slot.retype, if_pos hs, hindex, hremoved, hs]
      · rintro rfl
        obtain ⟨s₀, hs₀, hname⟩ :=
          h.wellFormed.position?_isSome_iff.1 (h.position?_isSome_iff.2 hlive)
        obtain ⟨hremoved, -, hindex, -⟩ := (h.mem_roster_iff s₀).1 hs₀
        refine ⟨s₀, hs₀, ?_⟩
        rw [Slot.retype, if_pos hname, hindex, hremoved, hname]
    · rw [Slot.IsLeftBy.concat_iff_of_name_ne (Ne.symm hs), ← h.mem_roster_iff]
      constructor
      · rintro ⟨s₀, hs₀, rfl⟩
        rw [Slot.retype_name] at hs
        rwa [Slot.retype, if_neg hs]
      · exact fun hmem => ⟨s, hmem, if_neg hs⟩
  · rw [h.wellFormed.roster_change hc, List.pairwise_map]
    refine List.Pairwise.imp_of_mem (fun {a b} ha hb hlt => ?_) h.ordered
    rwa [Slot.retype_name, Slot.retype_name,
      creation?_concat_change ((h.mem_roster_iff a).1 ha).2.1,
      creation?_concat_change ((h.mem_roster_iff b).1 hb).2.1]

theorem Reflects.insertAt (h : t.Reflects ops) (hc : t.change name type = none) :
    (t.insertAt name 0 type).Reflects (ops ++ [.change name type]) := by
  have hpos : t.position? name = none := Option.map_eq_none_iff.1 hc
  have hdead : creation? ops name = none := by
    rw [← Option.not_isSome_iff_eq_none, ← h.position?_isSome_iff, hpos]
    exact Bool.false_ne_true
  have hne : ∀ s ∈ t.roster, name ≠ s.name := fun s hs heq => by
    have := ((h.mem_roster_iff s).1 hs).2.1
    simp [← heq, hdead] at this
  refine ⟨h.wellFormed.insertAt, ?_, ?_, ?_⟩
  · rw [List.countP_append, ← h.nextIndex_eq]
    simp [SlotTable.insertAt, SlotTable.remove, hpos, isAdd]
  · intro s
    rw [h.wellFormed.roster_insertAt_of_none hc, List.mem_append, List.mem_singleton]
    by_cases hs : s.name = name
    · rw [Slot.IsLeftBy.concat_change_iff_of_none hs hdead]
      exact or_iff_right fun hmem => hne s hmem hs.symm
    · rw [Slot.IsLeftBy.concat_iff_of_name_ne (Ne.symm hs), ← h.mem_roster_iff]
      exact or_iff_left fun heq => hs (heq ▸ rfl)
  · rw [h.wellFormed.roster_insertAt_of_none hc]
    refine pairwise_concat_append hne h.ordered ?_
    simp [creation?_concat, adds, removes, changes, hdead]

/-- One operation keeps a table in step with the sequence of operations. -/
theorem Reflects.perform (h : t.Reflects ops) (op : Operation) :
    (t.perform op).Reflects (ops ++ [op]) := by
  cases op with
  | add name type => exact h.add
  | remove name => exact h.remove
  | change name type =>
    simp only [SlotTable.perform]
    cases hc : t.change name type with
    | none => exact h.insertAt hc
    | some t' => exact h.change hc

/-- The table after a sequence of operations reflects the sequence. -/
theorem reflects_performAll (ops : List Operation) :
    (ops.foldl SlotTable.perform empty).Reflects ops := by
  induction ops using List.reverseRecOn with
  | nil => exact reflects_empty
  | append_singleton ops op ih =>
    rw [List.foldl_append]
    exact ih.perform op

theorem replay_eq_foldl (t : SlotTable) (steps : List Step) :
    t.replay steps = (steps.map Step.operation).foldl SlotTable.perform t :=
  List.foldl_map.symm

theorem reflects_replay (steps : List Step) :
    (empty.replay steps).Reflects (steps.map Step.operation) := by
  rw [replay_eq_foldl]
  exact reflects_performAll _

end SlotTable

/-! ### Stable sorting -/

section Sorting

variable {α β : Type} [LinearOrder β] (key : α → β)

theorem key_le_trans (a b c : α) (hab : decide (key a ≤ key b)) (hbc : decide (key b ≤ key c)) :
    decide (key a ≤ key c) := by
  simp only [decide_eq_true_eq] at *
  exact hab.trans hbc

theorem key_le_total (a b : α) : decide (key a ≤ key b) || decide (key b ≤ key a) := by
  simp only [Bool.or_eq_true, decide_eq_true_eq]
  exact le_total (key a) (key b)

/-- Sorting by a key keeps the elements of one key in their order. -/
theorem filter_mergeSort_key (l : List α) (k : β) :
    (l.mergeSort fun a b => key a ≤ key b).filter (key · == k) = l.filter (key · == k) := by
  have htie : (l.filter (key · == k)).Pairwise fun a b => decide (key a ≤ key b) = true :=
    List.pairwise_of_forall_mem_list fun a ha b hb => by
      have hka := (List.mem_filter.1 ha).2
      have hkb := (List.mem_filter.1 hb).2
      simp only [beq_iff_eq] at hka hkb
      simp [hka, hkb]
  have hsub : (l.filter (key · == k)).Sublist (l.mergeSort fun a b => key a ≤ key b) :=
    List.sublist_mergeSort (key_le_trans key) (key_le_total key) htie List.filter_sublist
  have hsub' := hsub.filter (key · == k)
  rw [List.filter_filter] at hsub'
  simp only [Bool.and_self] at hsub'
  refine (hsub'.eq_of_length ?_).symm
  exact ((List.mergeSort_perm l _).filter _).length_eq.symm

/-- Sorting by a key orders by the key first and by the old order second. -/
theorem pairwise_mergeSort_key {r : α → α → Prop} {l : List α} (h : l.Pairwise r) :
    (l.mergeSort fun a b => key a ≤ key b).Pairwise fun a b =>
      key a < key b ∨ key a = key b ∧ r a b := by
  have hsorted := List.pairwise_mergeSort (key_le_trans key) (key_le_total key) l
  rw [List.pairwise_iff_forall_sublist] at hsorted ⊢
  intro a b hab
  have hle : key a ≤ key b := of_decide_eq_true (hsorted hab)
  rcases hle.lt_or_eq with hlt | heq
  · exact Or.inl hlt
  · -- both have one key, so they stand in the input as in the output
    have hsub := hab.filter (key · == key b)
    rw [filter_mergeSort_key, List.filter_cons_of_pos (by simp [heq]),
      List.filter_cons_of_pos (by simp), List.filter_nil] at hsub
    exact Or.inr ⟨heq, h.forall_sublist (hsub.trans List.filter_sublist)⟩

end Sorting

/-! ### The fields of a message -/

namespace Message

variable (m : Message)

theorem reflects_replay : (SlotTable.empty.replay m.history).Reflects m.operations :=
  m.map_operation_history ▸ SlotTable.reflects_replay m.history

variable {m} in
theorem mem_fields_iff {f : ResolvedField} :
    f ∈ m.resolve.fields ↔ (creation? m.operations f.name).isSome ∧
      f.index = wireIndex m.operations f.name ∧
      lastType? m.operations f.name = some f.type := by
  simp only [resolve, SlotTable.fields, List.mem_map, SlotTable.liveSlots, List.mem_mergeSort]
  constructor
  · rintro ⟨s, hs, rfl⟩
    exact ((m.reflects_replay.mem_roster_iff s).1 hs).2
  · intro h
    exact ⟨{ name := f.name, index := f.index, type := f.type },
      (m.reflects_replay.mem_roster_iff _).2 ⟨rfl, h⟩, rfl⟩

variable {m} in
/-- The names of the fields are those that are live. -/
theorem mem_names_iff {name : String} :
    name ∈ m.resolve.names ↔ (creation? m.operations name).isSome := by
  rw [FieldSet.names, List.mem_map]
  constructor
  · rintro ⟨f, hf, rfl⟩
    exact (mem_fields_iff.1 hf).1
  · intro h
    obtain ⟨type, htype⟩ := Option.isSome_iff_exists.1 (lastType?_isSome h)
    exact ⟨⟨wireIndex m.operations name, name, type⟩, mem_fields_iff.2 ⟨h, rfl, htype⟩, rfl⟩

/-- The fields stand in the order of their indices and, among those of one index, in the order in
which their slots were made. -/
theorem pairwise_names : m.resolve.names.Pairwise (Precedes m.operations) := by
  have hreflects := m.reflects_replay
  have hsorted := pairwise_mergeSort_key Slot.index hreflects.ordered
  simp only [FieldSet.names, resolve, SlotTable.fields, List.map_map, List.pairwise_map]
  refine List.Pairwise.imp_of_mem (fun {a b} ha hb hab => ?_) hsorted
  have ha' := (hreflects.mem_roster_iff a).1 (List.mem_mergeSort.1 ha)
  have hb' := (hreflects.mem_roster_iff b).1 (List.mem_mergeSort.1 hb)
  rwa [ha'.2.2.1, hb'.2.2.1] at hab

theorem nodup_names : m.resolve.names.Nodup :=
  m.pairwise_names.nodup

/-- Live fields that are listed in the order of the wire are found so among the fields. -/
theorem sublist_names {l : List String} (hl : l.Pairwise (Precedes m.operations))
    (hsub : l ⊆ m.resolve.names) : l.Sublist m.resolve.names :=
  List.sublist_of_subperm_of_pairwise (List.subperm_of_subset hl.nodup hsub) hl m.pairwise_names

theorem map_place_fields :
    m.resolve.fields.map (fun f => (f.index, f.name)) =
      m.resolve.names.map fun n => (wireIndex m.operations n, n) := by
  rw [FieldSet.names, List.map_map]
  exact List.map_congr_left fun f hf => by rw [(mem_fields_iff.1 hf).2.1, Function.comp_apply]

/-- The greatest major version of deltas, and 0 where there are none. -/
theorem foldl_max_major_spec (ds : List VersionDelta) (v : UInt8)
    (h : ds.foldl (fun v d => max v d.major) 0 = v) :
    (∀ d ∈ ds, d.major ≤ v) ∧ (ds = [] ∧ v = 0 ∨ ∃ d ∈ ds, d.major = v) := by
  induction ds using List.reverseRecOn generalizing v with
  | nil => simp [← h]
  | append_singleton ds d ih =>
    obtain ⟨hle, hmem⟩ := ih _ rfl
    set w := ds.foldl (fun v d => max v d.major) 0
    rw [List.foldl_append] at h
    change (if w ≤ d.major then d.major else w) = v at h
    rw [List.forall_mem_append, List.forall_mem_singleton]
    split_ifs at h with hd
    · subst h
      exact ⟨⟨fun d' hd' => UInt8.le_trans (hle d' hd') hd, UInt8.le_refl _⟩,
        Or.inr ⟨d, by simp, rfl⟩⟩
    · subst h
      refine ⟨⟨hle, (UInt8.le_total _ _).resolve_left hd⟩, Or.inr ?_⟩
      rcases hmem with ⟨-, hzero⟩ | ⟨d', hd', heq⟩
      · exact absurd (hzero ▸ UInt8.zero_le) hd
      · exact ⟨d', List.mem_append_left _ hd', heq⟩

/-- **The closed form of a replay.** The fields of a message are the live ones, each listed once,
under the type of the last addition or change and the index of the last addition. They stand in
the order of their indices and, among those of one index, of the operations that made their
slots, which exist for all live fields. The version is the greatest major version. -/
theorem resolve_closedForm :
    (∀ name, name ∈ m.resolve.names ↔ IsLive m.operations name) ∧
    m.resolve.names.Nodup ∧
    (∀ f, f ∈ m.resolve.fields ↔ IsLive m.operations f.name ∧
      lastType? m.operations f.name = some f.type ∧ f.index = wireIndex m.operations f.name) ∧
    (∀ name, IsLive m.operations name ↔ (creation? m.operations name).isSome) ∧
    (m.resolve.fields.Pairwise fun f g => f.index < g.index ∨
      f.index = g.index ∧ creation? m.operations f.name < creation? m.operations g.name) ∧
    (∀ d ∈ m.versions, d.major ≤ m.resolve.version) ∧
    (m.versions = [] ∧ m.resolve.version = 0 ∨ ∃ d ∈ m.versions, d.major = m.resolve.version) := by
  refine ⟨fun name => mem_names_iff.trans (isLive_iff _ _).symm, m.nodup_names, fun f => ?_,
    isLive_iff m.operations, ?_, foldl_max_major_spec m.versions m.latestMajor rfl⟩
  · rw [mem_fields_iff, isLive_iff, and_comm (a := f.index = _)]
  · refine List.Pairwise.imp_of_mem (fun {f g} hf hg hfg => ?_)
      (List.pairwise_map.1 m.pairwise_names)
    rwa [(mem_fields_iff.1 hf).2.1, (mem_fields_iff.1 hg).2.1]

/-- A message whose second delta removes one of its two fields and changes the other. -/
def chat : Message where
  id := 7
  name := "Chat"
  flags := 1
  versions := [
    { major := 1
      add := [
        { name := "text", type := "String", default := some "hello" },
        { name := "room", type := "int" }] },
    { major := 2
      minor := 1
      remove := [{ name := "room" }]
      change := [{ name := "text", type := "String[]" }] }]

/-- A message whose last delta changes a field that it has removed. -/
def staleChat : Message :=
  chat.extend { major := 3, change := [{ name := "room", type := "Room*" }] }

/-- The changed field is live again, at the index that the first field has too. -/
theorem resolve_closedForm_staleChat :
    (∀ d ∈ staleChat.versions, d.major ≤ staleChat.resolve.version) ∧
    IsLive staleChat.operations "room" ∧
    { index := 0, name := "text", type := "String[]" } ∈ staleChat.resolve.fields ∧
    { index := 0, name := "room", type := "Room*" } ∈ staleChat.resolve.fields := by
  obtain ⟨-, -, hfields, -, -, hversion, -⟩ := staleChat.resolve_closedForm
  have hroom : IsLive staleChat.operations "room" := by decide
  exact ⟨hversion, hroom, (hfields _).2 (by decide), (hfields _).2 ⟨hroom, by decide⟩⟩

end Message

end WireSchema
