import Mathlib.Data.List.Induction
import WireSchema.Replay.Basic

/-!
# The live slots of a table

A replay keeps its fields twice: in the slots, where a tombstone marks what was removed, and in
the map from names to positions. This file proves that the two agree along every replay, and reads
a table through its *roster*, the slots that are not tombstones in the order in which they were
made. On rosters the operations of a replay are plain list operations: an addition moves to the
end, a removal filters, a change retypes in place.

## Main definitions

* `SlotTable.WellFormed`: the map finds exactly the slots that are not tombstones.
* `SlotTable.roster`: the slots that are not tombstones.
* `Slot.retype`: a slot under a new type, if it has a given name.

## Main results

* `SlotTable.WellFormed.add`, `SlotTable.WellFormed.remove`, `SlotTable.WellFormed.change`,
  `SlotTable.WellFormed.insertAt`: the operations keep a table well formed.
* `SlotTable.WellFormed.roster_add`, `SlotTable.WellFormed.roster_remove`,
  `SlotTable.WellFormed.roster_change`, `SlotTable.WellFormed.roster_insertAt_of_none`: the
  operations on rosters.
-/

namespace WireSchema

/-- A slot under a new type if it has the name, and the slot itself otherwise. -/
def Slot.retype (name type : String) (s : Slot) : Slot :=
  if s.name = name then { s with type } else s

@[simp] theorem Slot.retype_name (name type : String) (s : Slot) :
    (s.retype name type).name = s.name := by
  unfold retype
  split_ifs <;> rfl

namespace SlotTable

variable {t t' : SlotTable} {name type n : String} {pos index : Nat}

/-- The slots that are not tombstones, in the order in which they were made. -/
def roster (t : SlotTable) : List Slot :=
  t.slots.filter (!·.removed)

/-- A table is well formed when its map sends a name to a position exactly if the slot there has
the name and is not a tombstone. -/
def WellFormed (t : SlotTable) : Prop :=
  ∀ name pos, t.position? name = some pos ↔
    ∃ s, t.slots[pos]? = some s ∧ s.name = name ∧ s.removed = false

theorem wellFormed_empty : empty.WellFormed := by
  simp [WellFormed, empty, position?]

/-! ### The map of positions -/

theorem lookup_filter_ne (l : List (String × Nat)) (name n : String) :
    (l.filter fun entry => entry.1 != name).lookup n = if n = name then none else l.lookup n := by
  induction l with
  | nil => simp
  | cons entry l ih =>
    by_cases hentry : entry.1 = name
    · rw [List.filter_cons_of_neg (by simp [hentry]), ih, List.lookup_cons]
      split_ifs with hn
      · rfl
      · rw [show (n == entry.1) = false by simp [hentry, hn]]
    · rw [List.filter_cons_of_pos (by simp [hentry]), List.lookup_cons, List.lookup_cons, ih]
      split_ifs with hn
      · rw [show (n == entry.1) = false by simp [hn, Ne.symm hentry]]
      · rfl

theorem position?_remove (t : SlotTable) (name n : String) :
    (t.remove name).2.position? n = if n = name then none else t.position? n := by
  unfold remove
  split
  · exact lookup_filter_ne t.live name n
  · rename_i hnone
    split_ifs with hn
    · rw [hn, hnone]
    · rfl

@[simp] theorem length_slots_remove (t : SlotTable) (name : String) :
    (t.remove name).2.slots.length = t.slots.length := by
  unfold remove
  split <;> simp

@[simp] theorem nextIndex_remove (t : SlotTable) (name : String) :
    (t.remove name).2.nextIndex = t.nextIndex := by
  unfold remove
  split <;> rfl

theorem position?_insertAt (t : SlotTable) (name : String) (index : Nat) (type n : String) :
    (t.insertAt name index type).position? n =
      if n = name then some t.slots.length else t.position? n := by
  change ((name, (t.remove name).2.slots.length) :: (t.remove name).2.live).lookup n = _
  rw [List.lookup_cons, length_slots_remove]
  split_ifs with hn
  · simp [hn]
  · rw [show (n == name) = false by simpa using hn]
    exact (position?_remove t name n).trans (if_neg hn)

/-! ### Well-formed tables -/

/-- The live slot of a field stands alone under its name. -/
theorem WellFormed.exists_split (h : t.WellFormed) (hpos : t.position? name = some pos)
    (f : Slot → Slot) :
    ∃ before s after, t.slots = before ++ s :: after ∧
      t.slots.modify pos f = before ++ f s :: after ∧ s.name = name ∧ s.removed = false ∧
      ∀ s' ∈ before ++ after, s'.removed = false → s'.name ≠ name := by
  obtain ⟨s, hs, hname, hremoved⟩ := (h name pos).1 hpos
  obtain ⟨hlt, rfl⟩ := List.getElem?_eq_some_iff.1 hs
  obtain ⟨before, a, after, heq, hlen, hmod⟩ := List.exists_of_modify f hlt
  have ha : t.slots[pos] = a := by simp [heq, ← hlen]
  rw [ha] at hname hremoved
  refine ⟨before, a, after, heq, hmod, hname, hremoved, ?_⟩
  intro s' hs' hlive hname'
  -- any other live slot of the name would be found at its own position
  have hunique : ∀ i, t.slots[i]? = some s' → i = before.length := fun i hi => by
    have hfound := (h name i).2 ⟨s', hi, hname', hlive⟩
    rw [hlen]
    exact Option.some.inj (hfound.symm.trans hpos)
  rcases List.mem_append.1 hs' with hb | hb
  · obtain ⟨i, hi, rfl⟩ := List.getElem_of_mem hb
    have := hunique i (by rw [heq, List.getElem?_append_left hi, List.getElem?_eq_getElem hi])
    omega
  · obtain ⟨i, hi, rfl⟩ := List.getElem_of_mem hb
    have := hunique (before.length + (i + 1)) (by
      rw [heq, List.getElem?_append_right (by omega)]
      simp [hi])
    omega

/-- Modifying the live slot of a field leaves every other live slot in place. -/
theorem WellFormed.modify_iff (h : t.WellFormed) (hpos : t.position? name = some pos)
    {f : Slot → Slot} {n : String} {i : Nat} (hn : n ≠ name) (hf : ∀ s, (f s).name = s.name) :
    (∃ s, (t.slots.modify pos f)[i]? = some s ∧ s.name = n ∧ s.removed = false) ↔
      t.position? n = some i := by
  rw [h n i, List.getElem?_modify]
  split_ifs with hi
  · obtain ⟨s, hs, hname, -⟩ := (h name pos).1 hpos
    rw [← hi, hs]
    have hne : s.name ≠ n := fun heq => hn (heq.symm.trans hname)
    simp [hf, hne]
  · simp

theorem WellFormed.remove (h : t.WellFormed) : (t.remove name).2.WellFormed := by
  intro n i
  rw [position?_remove]
  cases hp : t.position? name with
  | none =>
    simp only [SlotTable.remove, hp]
    split_ifs with hn
    · rw [← h n i, hn, hp]
      simp
    · exact h n i
  | some pos =>
    simp only [SlotTable.remove, hp]
    split_ifs with hn
    · refine iff_of_false (by simp) ?_
      rintro ⟨s, hs, hname, hremoved⟩
      rw [List.getElem?_modify] at hs
      split_ifs at hs with hi
      · obtain ⟨s', -, rfl⟩ := Option.map_eq_some_iff.1 hs
        simp at hremoved
      · have hfound := (h n i).2 ⟨s, by simpa using hs, hname, hremoved⟩
        rw [hn, hp] at hfound
        exact hi (Option.some.inj hfound)
    · exact (h.modify_iff (f := fun s => { s with removed := true }) hp hn fun _ => rfl).symm

theorem slots_insertAt (t : SlotTable) (name : String) (index : Nat) (type : String) :
    (t.insertAt name index type).slots =
      (t.remove name).2.slots ++ [{ name := name, index := index, type := type }] := rfl

theorem WellFormed.lt_length (h : t.WellFormed) (hpos : t.position? name = some pos) :
    pos < t.slots.length := by
  obtain ⟨s, hs, -⟩ := (h name pos).1 hpos
  exact (List.getElem?_eq_some_iff.1 hs).1

theorem WellFormed.insertAt (h : t.WellFormed) : (t.insertAt name index type).WellFormed := by
  intro n i
  rw [position?_insertAt, slots_insertAt]
  rcases Nat.lt_trichotomy i t.slots.length with hi | hi | hi
  · rw [List.getElem?_append_left (by simpa using hi), ← h.remove n i, position?_remove]
    split_ifs with hn
    · simpa using Nat.ne_of_gt hi
    · rfl
  · rw [List.getElem?_append_right (by simp [hi]), hi]
    split_ifs with hn
    · simp [hn]
    · have hout : t.position? n ≠ some t.slots.length := fun hpos =>
        Nat.lt_irrefl _ (h.lt_length hpos)
      simp [hout, Ne.symm hn]
  · rw [List.getElem?_eq_none (by simp; omega)]
    split_ifs with hn
    · simpa using Nat.ne_of_lt hi
    · have hout : t.position? n ≠ some i := fun hpos => by
        have := h.lt_length hpos
        omega
      simp [hout]

theorem WellFormed.add (h : t.WellFormed) : (t.add name type).2.WellFormed :=
  h.insertAt

theorem WellFormed.change (h : t.WellFormed) (hc : t.change name type = some t') :
    t'.WellFormed := by
  obtain ⟨pos, -, rfl⟩ := Option.map_eq_some_iff.1 hc
  intro n i
  refine (h n i).trans ?_
  rw [List.getElem?_modify]
  split_ifs
  · cases t.slots[i]? <;> simp
  · simp

/-! ### Rosters -/

/-- Live slots that were made in the order of their indices are listed as they were made. -/
theorem fields_of_pairwise (h : t.roster.Pairwise fun a b => a.index ≤ b.index) :
    t.fields = t.roster.map fun s => ⟨s.index, s.name, s.type⟩ := by
  have hsorted : t.liveSlots = t.roster :=
    List.mergeSort_of_pairwise (h.imp fun hle => decide_eq_true hle)
  rw [fields, hsorted]

/-- A field is found exactly if the roster has a slot of its name. -/
theorem WellFormed.position?_isSome_iff (h : t.WellFormed) :
    (t.position? name).isSome ↔ ∃ s ∈ t.roster, s.name = name := by
  rw [Option.isSome_iff_exists]
  constructor
  · rintro ⟨pos, hpos⟩
    obtain ⟨s, hs, hname, hremoved⟩ := (h name pos).1 hpos
    exact ⟨s, List.mem_filter.2 ⟨List.mem_of_getElem? hs, by simp [hremoved]⟩, hname⟩
  · rintro ⟨s, hs, hname⟩
    obtain ⟨hmem, hremoved⟩ := List.mem_filter.1 hs
    obtain ⟨pos, hpos⟩ := List.mem_iff_getElem?.1 hmem
    exact ⟨pos, (h name pos).2 ⟨s, hpos, hname, by simpa using hremoved⟩⟩

/-- Modifying the live slot of a field modifies one entry of the roster, the only one of its
name. -/
theorem WellFormed.exists_roster_split (h : t.WellFormed) (hpos : t.position? name = some pos)
    (f : Slot → Slot) :
    ∃ before s after, t.roster = before ++ s :: after ∧
      (t.slots.modify pos f).filter (!·.removed) = before ++ [f s].filter (!·.removed) ++ after ∧
      s.name = name ∧ ∀ s' ∈ before ++ after, s'.name ≠ name := by
  obtain ⟨before, s, after, heq, hmod, hname, hremoved, hothers⟩ := h.exists_split hpos f
  refine ⟨before.filter (!·.removed), s, after.filter (!·.removed), ?_, ?_, hname, ?_⟩
  · rw [roster, heq, List.filter_append, List.filter_cons_of_pos (by simp [hremoved])]
  · rw [hmod, List.append_cons, List.filter_append, List.filter_append]
  · intro s' hs'
    rw [← List.filter_append, List.mem_filter] at hs'
    exact hothers s' hs'.1 (by simpa using hs'.2)

theorem WellFormed.roster_remove (h : t.WellFormed) :
    (t.remove name).2.roster = t.roster.filter (·.name != name) := by
  cases hp : t.position? name with
  | none =>
    have hfree : ∀ s ∈ t.roster, s.name ≠ name := fun s hs hname => by
      have hsome := h.position?_isSome_iff.2 ⟨s, hs, hname⟩
      rw [hp] at hsome
      exact Bool.false_ne_true hsome
    rw [SlotTable.remove, hp]
    exact (List.filter_eq_self.2 fun s hs => by simpa using hfree s hs).symm
  | some pos =>
    obtain ⟨before, s, after, hroster, hmod, hname, hothers⟩ :=
      h.exists_roster_split hp fun s => { s with removed := true }
    have hrest : (before ++ s :: after).filter (·.name != name) = before ++ after := by
      rw [List.filter_append, List.filter_cons_of_neg (by simp [hname]), ← List.filter_append]
      exact List.filter_eq_self.2 fun s' hs' => by simpa using hothers s' hs'
    rw [SlotTable.remove, hp, hroster, hrest]
    refine hmod.trans ?_
    simp

theorem WellFormed.roster_insertAt (h : t.WellFormed) :
    (t.insertAt name index type).roster =
      t.roster.filter (·.name != name) ++ [{ name := name, index := index, type := type }] := by
  rw [← h.roster_remove]
  simp [roster, slots_insertAt]

/-- An addition takes the place of the field's live slot and stands at the end. -/
theorem WellFormed.roster_add (h : t.WellFormed) :
    (t.add name type).2.roster = t.roster.filter (·.name != name) ++
      [{ name := name, index := t.nextIndex, type := type }] :=
  h.roster_insertAt

/-- A change of a live field retypes its slot in place. -/
theorem WellFormed.roster_change (h : t.WellFormed) (hc : t.change name type = some t') :
    t'.roster = t.roster.map (Slot.retype name type) := by
  obtain ⟨pos, hp, rfl⟩ := Option.map_eq_some_iff.1 hc
  obtain ⟨before, s, after, hroster, hmod, hname, hothers⟩ :=
    h.exists_roster_split hp fun s => { s with type }
  have hlive : s.removed = false := by
    have hmem : s ∈ t.roster := by simp [hroster]
    simpa using (List.mem_filter.1 hmem).2
  have hrest : ∀ l : List Slot, (∀ s' ∈ l, s' ∈ before ++ after) →
      l.map (Slot.retype name type) = l := fun l hl =>
    (List.map_congr_left fun s' hs' => if_neg (hothers s' (hl s' hs'))).trans (List.map_id l)
  refine hmod.trans ?_
  rw [hroster, List.map_append, List.map_cons,
    hrest before fun s' hs' => List.mem_append_left _ hs',
    hrest after fun s' hs' => List.mem_append_right _ hs', Slot.retype, if_pos hname]
  simp [hlive]

/-- A change of a field that is not live appends a slot at index 0. -/
theorem WellFormed.roster_insertAt_of_none (h : t.WellFormed) (hc : t.change name type = none) :
    (t.insertAt name index type).roster =
      t.roster ++ [{ name := name, index := index, type := type }] := by
  have hnone : t.position? name = none := Option.map_eq_none_iff.1 hc
  rw [h.roster_insertAt, ← h.roster_remove, SlotTable.remove, hnone]

end SlotTable

end WireSchema
