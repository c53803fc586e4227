import Mathlib.Tactic.Common
import WireSchema.Proofs.Replay.Policies
import WireSchema.Proofs.Replay.TableCalls

/-!
# Independent operations in another order

Removals of a delta can be listed in any order, and so can its changes if each is of another field.
The operations are exchanged in the middle of a history, where the two replays may reach different
tables: fields that are not live get their slots at index 0 in the order of their changes. So tables
are compared by their rosters, up to the order of the slots at some of the indices. Every operation
keeps two tables alike in this sense, and the fields are sorted by their indices in the end, so the
order that is lost is that of the fields at index 0 alone.

## Main definitions

* `Operation.onRoster`: what an operation does to a roster.
* `SlotTable.Alike`: tables with the same slots, in the same order at the indices that are kept.
* `Operation.Independent`: two operations that can be exchanged.
* `Message.withDelta`: a message with another delta in place of one of its own.

## Main results

* `SlotTable.Alike.perform`, `SlotTable.Alike.replay`: alike tables stay alike.
* `SlotTable.alike_exchange`: two independent operations in either order.
* `SlotTable.alike_replay_perm`: independent operations in any order.
* `eq_of_filter_key_eq`: a sorted list is determined by the elements of each key.
* `Message.resolveWith_reordered`: a delta with its removals or its changes in another order.
-/

namespace WireSchema

open Operation

/-! ### Rosters along a replay -/

/-- A roster after an operation, where `next` is the index that an addition takes. -/
def Operation.onRoster (next : Nat) (l : List Slot) : Operation → List Slot
  | add name type => l.filter (·.name != name) ++ [{ name, index := next, type }]
  | remove name => l.filter (·.name != name)
  | change name type =>
    if l.any (·.name == name) then l.map (Slot.retype name type)
    else l ++ [{ name, index := 0, type }]

@[simp] theorem Slot.retype_index (name type : String) (s : Slot) :
    (s.retype name type).index = s.index := by
  unfold retype
  split_ifs <;> rfl

/-- Retyping two fields is the same in either order. -/
theorem Slot.retype_comm {a b : String} (h : a ≠ b) (type type' : String) (s : Slot) :
    (s.retype a type).retype b type' = (s.retype b type').retype a type := by
  unfold retype
  by_cases ha : s.name = a
  · have hb : s.name ≠ b := fun hb => h (ha.symm.trans hb)
    simp [ha, h]
  · by_cases hb : s.name = b <;> simp [ha, hb, Ne.symm h]

namespace SlotTable

variable {t t' : SlotTable} {keep : Nat → Bool} {op : Operation} {steps steps' : List Step}
  {name type : String}

/-- Only additions take an index. -/
theorem nextIndex_perform (t : SlotTable) (op : Operation) :
    (t.perform op).nextIndex = t.nextIndex + if op.isAdd then 1 else 0 := by
  cases op with
  | add name type => rfl
  | remove name => exact nextIndex_remove t name
  | change name type =>
    rw [perform]
    cases hc : t.change name type with
    | none => exact nextIndex_remove t name
    | some t' =>
      obtain ⟨pos, -, rfl⟩ := Option.map_eq_some_iff.1 hc
      rfl

theorem WellFormed.perform (h : t.WellFormed) (op : Operation) : (t.perform op).WellFormed := by
  rw [← run_callsOf]
  exact h.run (t.callsOf op)

theorem WellFormed.replay (h : t.WellFormed) (steps : List Step) : (t.replay steps).WellFormed := by
  induction steps generalizing t with
  | nil => exact h
  | cons s steps ih => exact ih (h.perform s.operation)

/-- A change is of a field that is not live where no slot of the roster has its name. -/
theorem WellFormed.misses_change (h : t.WellFormed) (name type : String) :
    t.misses (.change name type) = !t.roster.any (·.name == name) := by
  have hiff : (t.position? name).isSome = t.roster.any (·.name == name) := by
    rw [Bool.eq_iff_iff, h.position?_isSome_iff, List.any_eq_true]
    simp
  rw [misses, ← hiff, Option.not_isSome]

theorem WellFormed.roster_perform (h : t.WellFormed) (op : Operation) :
    (t.perform op).roster = op.onRoster t.nextIndex t.roster := by
  cases op with
  | add name type => exact h.roster_add
  | remove name => exact h.roster_remove
  | change name type =>
    have hmiss := h.misses_change name type
    rw [SlotTable.perform, onRoster]
    cases hc : t.change name type with
    | none =>
      rw [misses_change_iff.2 hc] at hmiss
      rw [if_neg (by simpa using hmiss.symm)]
      exact h.roster_insertAt_of_none hc
    | some t' =>
      have hhit : t.misses (.change name type) = false := by
        rw [Bool.eq_false_iff, ne_eq, misses_change_iff, hc]
        exact Option.some_ne_none t'
      rw [hhit] at hmiss
      rw [if_pos (by simpa using hmiss.symm)]
      exact h.roster_change hc

/-! ### Alike tables -/

/-- Two tables are alike when they have the same slots and go on with the same index, and the slots
at the indices that are kept stand in the same order. -/
structure Alike (keep : Nat → Bool) (t t' : SlotTable) : Prop where
  left : t.WellFormed
  right : t'.WellFormed
  nextIndex_eq : t.nextIndex = t'.nextIndex
  perm : t.roster.Perm t'.roster
  filter_eq : t.roster.filter (keep ·.index) = t'.roster.filter (keep ·.index)

namespace Alike

theorem refl (h : t.WellFormed) : Alike keep t t :=
  ⟨h, h, rfl, .refl _, rfl⟩

theorem trans {t₁ t₂ t₃ : SlotTable} (h : Alike keep t₁ t₂) (h' : Alike keep t₂ t₃) :
    Alike keep t₁ t₃ :=
  ⟨h.left, h'.right, h.nextIndex_eq.trans h'.nextIndex_eq, h.perm.trans h'.perm,
    h.filter_eq.trans h'.filter_eq⟩

/-- The same changes are of fields that are not live. -/
theorem misses_eq (h : Alike keep t t') (op : Operation) : t.misses op = t'.misses op := by
  cases op with
  | add name type => rfl
  | remove name => rfl
  | change name type =>
    rw [h.left.misses_change, h.right.misses_change, h.perm.any_eq]

/-- One operation keeps two tables alike. -/
theorem perform (h : Alike keep t t') (op : Operation) :
    Alike keep (t.perform op) (t'.perform op) := by
  refine ⟨h.left.perform op, h.right.perform op, ?_, ?_, ?_⟩
  · rw [nextIndex_perform, nextIndex_perform, h.nextIndex_eq]
  · rw [h.left.roster_perform, h.right.roster_perform, h.nextIndex_eq]
    cases op with
    | add name type => exact (h.perm.filter _).append_right _
    | remove name => exact h.perm.filter _
    | change name type =>
      simp only [onRoster, h.perm.any_eq]
      split_ifs
      · exact h.perm.map _
      · exact h.perm.append_right _
  · rw [h.left.roster_perform, h.right.roster_perform, h.nextIndex_eq]
    cases op with
    | add name type =>
      simp only [onRoster, List.filter_append]
      rw [List.filter_comm, h.filter_eq, List.filter_comm]
    | remove name =>
      simp only [onRoster]
      rw [List.filter_comm, h.filter_eq, List.filter_comm]
    | change name type =>
      simp only [onRoster, h.perm.any_eq]
      split_ifs
      · simp only [List.filter_map, Function.comp_def, Slot.retype_index, h.filter_eq]
      · rw [List.filter_append, List.filter_append, h.filter_eq]

/-- A whole replay keeps two tables alike. -/
theorem replay (h : Alike keep t t') (steps : List Step) :
    Alike keep (t.replay steps) (t'.replay steps) := by
  induction steps generalizing t t' with
  | nil => exact h
  | cons s steps ih => exact ih (h.perform s.operation)

/-- A whole replay makes the same records from alike tables. -/
theorem missesOf_eq (h : Alike keep t t') (steps : List Step) :
    t.missesOf steps = t'.missesOf steps := by
  induction steps generalizing t t' with
  | nil => rfl
  | cons s steps ih => rw [missesOf, missesOf, h.misses_eq, ih (h.perform s.operation)]

end Alike

end SlotTable

/-! ### Independent operations -/

namespace Operation

/-- Two operations that can be exchanged: removals, or changes of two fields. -/
inductive Independent : Operation → Operation → Prop
  | removals (a b : String) : Independent (.remove a) (.remove b)
  | changes {a b : String} (h : a ≠ b) (type type' : String) :
    Independent (.change a type) (.change b type')

theorem Independent.symm {a b : Operation} (h : Independent a b) : Independent b a := by
  cases h with
  | removals a b => exact .removals b a
  | changes h type type' => exact .changes h.symm type' type

variable {a b : String} {type type' : String} {next : Nat} {l : List Slot}

theorem onRoster_change_of_live (h : l.any (·.name == a) = true) :
    (change a type).onRoster next l = l.map (Slot.retype a type) :=
  if_pos h

theorem onRoster_change_of_not_live (h : l.any (·.name == a) = false) :
    (change a type).onRoster next l = l ++ [{ name := a, index := 0, type := type }] :=
  if_neg (by simp [h])

/-- A change of a field leaves it as it is whether another field is live. -/
theorem any_name_onRoster_change (h : a ≠ b) (type : String) (next : Nat) (l : List Slot) :
    ((change a type).onRoster next l).any (·.name == b) = l.any (·.name == b) := by
  cases ha : l.any (·.name == a) with
  | true =>
    rw [onRoster_change_of_live ha]
    simp only [List.any_map, Function.comp_def, Slot.retype_name]
  | false =>
    rw [onRoster_change_of_not_live ha]
    simp [h]

/-- Changes of two fields, one of which is live, have the same effect in either order. -/
theorem onRoster_change_comm (h : a ≠ b) (ha : l.any (·.name == a) = true) :
    (change b type').onRoster next ((change a type).onRoster next l) =
      (change a type).onRoster next ((change b type').onRoster next l) := by
  have ha' := (any_name_onRoster_change h.symm type' next l).trans ha
  have hb' := any_name_onRoster_change h type next l
  rw [onRoster_change_of_live ha']
  cases hb : l.any (·.name == b) with
  | true =>
    rw [onRoster_change_of_live (hb'.trans hb), onRoster_change_of_live ha,
      onRoster_change_of_live hb, List.map_map, List.map_map]
    exact List.map_congr_left fun s _ => Slot.retype_comm h type type' s
  | false =>
    rw [onRoster_change_of_not_live (hb'.trans hb), onRoster_change_of_live ha,
      onRoster_change_of_not_live hb, List.map_append, List.map_singleton, Slot.retype,
      if_neg h.symm]

/-- Changes of two fields that are not live add two slots at index 0. -/
theorem onRoster_change_change (h : a ≠ b) (ha : l.any (·.name == a) = false)
    (hb : l.any (·.name == b) = false) :
    (change b type').onRoster next ((change a type).onRoster next l) =
      l ++ [{ name := a, index := 0, type := type }, { name := b, index := 0, type := type' }] := by
  have hb' := (any_name_onRoster_change h type next l).trans hb
  rw [onRoster_change_of_not_live hb', onRoster_change_of_not_live ha, List.append_assoc]
  rfl

end Operation

namespace SlotTable

variable {t : SlotTable} {keep : Nat → Bool} {a b : Operation} {steps steps' : List Step}

/-- An operation leaves it as it is whether an independent one changes a live field. -/
theorem misses_perform_of_independent (h : Independent a b) :
    (t.perform a).misses b = t.misses b := by
  cases h with
  | removals a b => rfl
  | @changes a b h type type' =>
    rw [misses, misses, perform]
    cases hc : t.change a type with
    | none => rw [Option.getD_none, position?_insertAt, if_neg h.symm]
    | some t' =>
      obtain ⟨pos, -, rfl⟩ := Option.map_eq_some_iff.1 hc
      rfl

theorem Alike.of_roster_eq {t t' : SlotTable} (ht : t.WellFormed) (ht' : t'.WellFormed)
    (hnext : t.nextIndex = t'.nextIndex) (hroster : t.roster = t'.roster) : Alike keep t t' :=
  ⟨ht, ht', hnext, .of_eq hroster, by rw [hroster]⟩

theorem WellFormed.roster_perform_perform (ht : t.WellFormed) (ha : a.isAdd = false) :
    ((t.perform a).perform b).roster =
      b.onRoster t.nextIndex (a.onRoster t.nextIndex t.roster) := by
  rw [(ht.perform a).roster_perform, ht.roster_perform, nextIndex_perform, ha]
  rfl

/-- Two independent operations have the same effect in either order. If both change fields that are
not live, this is up to the order of the slots at index 0. -/
theorem alike_exchange (ht : t.WellFormed) (h : Independent a b)
    (hkeep : keep 0 = true → t.misses a = false) :
    Alike keep ((t.perform a).perform b) ((t.perform b).perform a) := by
  have hab := (ht.perform a).perform b
  have hba := (ht.perform b).perform a
  have hnext : ((t.perform a).perform b).nextIndex = ((t.perform b).perform a).nextIndex := by
    simp only [nextIndex_perform]
    omega
  cases h with
  | removals a b =>
    refine .of_roster_eq hab hba hnext ?_
    rw [ht.roster_perform_perform rfl, ht.roster_perform_perform rfl]
    exact List.filter_comm ..
  | @changes a b h type type' =>
    cases ha : t.roster.any (·.name == a) with
    | true =>
      refine .of_roster_eq hab hba hnext ?_
      rw [ht.roster_perform_perform rfl, ht.roster_perform_perform rfl, onRoster_change_comm h ha]
    | false =>
      cases hb : t.roster.any (·.name == b) with
      | true =>
        refine .of_roster_eq hab hba hnext ?_
        rw [ht.roster_perform_perform rfl, ht.roster_perform_perform rfl,
          onRoster_change_comm h.symm hb]
      | false =>
        -- the two new slots change places, so the order at index 0 must not count
        have hzero : keep 0 = false := by
          by_contra hzero
          have hhit := hkeep (by simpa using hzero)
          rw [ht.misses_change, ha] at hhit
          exact Bool.false_ne_true hhit.symm
        have hleft := ht.roster_perform_perform (a := .change a type) (b := .change b type') rfl
        have hright := ht.roster_perform_perform (a := .change b type') (b := .change a type) rfl
        rw [onRoster_change_change h ha hb] at hleft
        rw [onRoster_change_change h.symm hb ha] at hright
        refine ⟨hab, hba, hnext, ?_, ?_⟩
        · rw [hleft, hright]
          exact (List.Perm.swap _ _ _).append_left _
        · rw [hleft, hright, List.filter_append, List.filter_append]
          simp [hzero]

/-- Independent operations in another order: the tables stay alike, and the same changes are
recorded. The order of the slots at index 0 is kept if no change is recorded. -/
theorem alike_replay_perm (ht : t.WellFormed) (h : steps.Perm steps')
    (hind : steps.Pairwise fun s s' => Independent s.operation s'.operation)
    (hkeep : keep 0 = true → t.missesOf steps = []) :
    Alike keep (t.replay steps) (t.replay steps') ∧
      (t.missesOf steps).Perm (t.missesOf steps') := by
  induction h generalizing t with
  | nil => exact ⟨.refl ht, .refl _⟩
  | @cons s steps steps' _ ih =>
    have hkeep' : keep 0 = true → (t.perform s.operation).missesOf steps = [] := fun hzero => by
      have hnone := hkeep hzero
      rw [missesOf] at hnone
      split_ifs at hnone
      exact hnone
    obtain ⟨halike, hperm⟩ := ih (ht.perform s.operation) hind.of_cons hkeep'
    refine ⟨halike, ?_⟩
    rw [missesOf, missesOf]
    split_ifs
    · exact hperm.cons s
    · exact hperm
  | swap s s' steps =>
    have hss' : Independent s'.operation s.operation := List.rel_of_pairwise_cons hind (by simp)
    have hfirst : keep 0 = true → t.misses s'.operation = false := fun hzero => by
      have hnone := hkeep hzero
      rw [missesOf] at hnone
      split_ifs at hnone with hmiss
      simpa using hmiss
    have halike := alike_exchange ht hss' hfirst
    refine ⟨halike.replay steps, ?_⟩
    simp only [missesOf, misses_perform_of_independent hss',
      misses_perform_of_independent hss'.symm,
      halike.missesOf_eq steps]
    split_ifs
    · exact .swap _ _ _
    · exact .refl _
    · exact .refl _
    · exact .refl _
  | @trans steps₁ steps₂ steps₃ h₁ h₂ ih₁ ih₂ =>
    obtain ⟨halike, hperm⟩ := ih₁ ht hind hkeep
    have hind₂ := (h₁.pairwise_iff fun hs => hs.symm).1 hind
    obtain ⟨halike', hperm'⟩ := ih₂ ht hind₂ fun hzero =>
      List.Perm.eq_nil (hkeep hzero ▸ hperm.symm)
    exact ⟨halike.trans halike', hperm.trans hperm'⟩

end SlotTable

/-! ### The fields of alike tables -/

/-- A list that is sorted by a key is determined by its elements of each key. -/
theorem eq_of_filter_key_eq {α : Type} (key : α → Nat) {l l' : List α}
    (hl : l.Pairwise fun a b => key a ≤ key b) (hl' : l'.Pairwise fun a b => key a ≤ key b)
    (h : ∀ k, l.filter (key · == k) = l'.filter (key · == k)) : l = l' := by
  induction l generalizing l' with
  | nil =>
    cases l' with
    | nil => rfl
    | cons b l' => simpa using h (key b)
  | cons a l ih =>
    cases l' with
    | nil => simpa using h (key a)
    | cons b l' =>
      rw [List.pairwise_cons] at hl hl'
      have hmem : ∀ x, x ∈ a :: l ↔ x ∈ b :: l' := fun x => by
        have hx := congrArg (x ∈ ·) (h (key x))
        simpa using hx
      have hab : key a ≤ key b := by
        rcases List.mem_cons.1 ((hmem b).2 List.mem_cons_self) with rfl | hb
        · exact Nat.le_refl _
        · exact hl.1 b hb
      have hba : key b ≤ key a := by
        rcases List.mem_cons.1 ((hmem a).1 List.mem_cons_self) with rfl | ha
        · exact Nat.le_refl _
        · exact hl'.1 a ha
      have hkey : key a = key b := Nat.le_antisymm hab hba
      have hhead := h (key a)
      rw [List.filter_cons_of_pos (by simp), List.filter_cons_of_pos (by simp [hkey])] at hhead
      obtain rfl := (List.cons.inj hhead).1
      rw [ih hl.2 hl'.2 fun k => ?_]
      have hk := h k
      by_cases hak : key a = k
      · rw [List.filter_cons_of_pos (by simpa using hak),
          List.filter_cons_of_pos (by simpa using hak)] at hk
        exact (List.cons.inj hk).2
      · rwa [List.filter_cons_of_neg (by simpa using hak),
          List.filter_cons_of_neg (by simpa using hak)] at hk

/-- A list that is sorted by a key begins with its elements of key 0. -/
theorem filter_zero_append_filter {α : Type} (key : α → Nat) {l : List α}
    (hl : l.Pairwise fun a b => key a ≤ key b) :
    l.filter (key · == 0) ++ l.filter (key · != 0) = l := by
  induction l with
  | nil => rfl
  | cons a l ih =>
    rw [List.pairwise_cons] at hl
    by_cases ha : key a = 0
    · rw [List.filter_cons_of_pos (by simpa using ha), List.filter_cons_of_neg (by simpa using ha),
        List.cons_append, ih hl.2]
    · have hpos : ∀ b ∈ a :: l, key b ≠ 0 := by
        intro b hb
        rcases List.mem_cons.1 hb with rfl | hb
        · exact ha
        · have := hl.1 b hb
          omega
      rw [List.filter_eq_nil_iff.2 fun b hb => by simpa using hpos b hb,
        List.filter_eq_self.2 fun b hb => by simpa using hpos b hb, List.nil_append]

namespace SlotTable

variable {t t' : SlotTable} {keep : Nat → Bool}

theorem pairwise_liveSlots (t : SlotTable) :
    t.liveSlots.Pairwise fun a b => a.index ≤ b.index :=
  (List.pairwise_mergeSort (key_le_trans Slot.index) (key_le_total Slot.index) t.roster).imp
    of_decide_eq_true

namespace Alike

/-- Alike tables list the same slots in the same order at the indices that are kept. -/
theorem filter_liveSlots (h : Alike keep t t') :
    t.liveSlots.filter (keep ·.index) = t'.liveSlots.filter (keep ·.index) := by
  refine eq_of_filter_key_eq Slot.index (t.pairwise_liveSlots.filter _)
    (t'.pairwise_liveSlots.filter _) fun k => ?_
  have hclass (t : SlotTable) :
      t.liveSlots.filter (·.index == k) = t.roster.filter (·.index == k) :=
    filter_mergeSort_key Slot.index t.roster k
  rw [List.filter_comm, hclass, List.filter_comm, h.filter_eq, List.filter_comm, ← hclass,
    List.filter_comm]

theorem filter_fields (h : Alike keep t t') :
    t.fields.filter (keep ·.index) = t'.fields.filter (keep ·.index) := by
  rw [fields, fields, List.filter_map, List.filter_map]
  exact congrArg _ h.filter_liveSlots

theorem perm_fields (h : Alike keep t t') : t.fields.Perm t'.fields :=
  ((List.mergeSort_perm _ _).trans (h.perm.trans (List.mergeSort_perm _ _).symm)).map _

/-- Where the order at every index counts, the fields are the same. -/
theorem fields_eq (h : Alike (fun _ => true) t t') : t.fields = t'.fields := by
  simpa only [List.filter_true] using h.filter_fields

/-- Where the order at index 0 does not count, the fields differ in that order only. -/
theorem exists_fields_eq_append (h : Alike (· != 0) t t') :
    ∃ tied tied' rest, t.fields = tied ++ rest ∧ t'.fields = tied' ++ rest ∧ tied'.Perm tied ∧
      ∀ f ∈ tied, f.index = 0 := by
  have hsplit (t : SlotTable) :
      t.fields.filter (·.index == 0) ++ t.fields.filter (·.index != 0) = t.fields :=
    filter_zero_append_filter ResolvedField.index (List.pairwise_map.2 t.pairwise_liveSlots)
  refine ⟨_, _, t.fields.filter (·.index != 0), (hsplit t).symm, ?_, h.perm_fields.symm.filter _,
    fun f hf => by simpa using (List.mem_filter.1 hf).2⟩
  rw [h.filter_fields, hsplit]

end Alike

end SlotTable

/-! ### Messages -/

/-- A set of fields with different names holds one field of each name. -/
theorem FieldSet.get?_eq_some_iff {r : FieldSet} (h : r.names.Nodup) {name : String}
    {f : ResolvedField} : r.get? name = some f ↔ f ∈ r.fields ∧ f.name = name := by
  constructor
  · intro hf
    exact ⟨List.mem_of_find?_eq_some hf, by simpa using List.find?_some hf⟩
  · rintro ⟨hmem, rfl⟩
    obtain ⟨g, hg⟩ : ∃ g, r.get? f.name = some g :=
      Option.isSome_iff_exists.1 (List.find?_isSome.2 ⟨f, hmem, by simp⟩)
    have hname : g.name = f.name := by simpa using List.find?_some hg
    rw [hg, List.inj_on_of_nodup_map h (List.mem_of_find?_eq_some hg) hmem hname]

namespace VersionDelta

/-- Removals as steps of a delta. -/
def removalSteps (d : VersionDelta) (removes : List RemoveSpec) : List Step :=
  removes.map fun r => ⟨d.major, d.minor, .remove r.name⟩

/-- Changes as steps of a delta. -/
def changeSteps (d : VersionDelta) (changes : List ChangeSpec) : List Step :=
  changes.map fun c => ⟨d.major, d.minor, .change c.name c.type⟩

variable (d : VersionDelta)

theorem exists_steps_withRemove : ∃ before after, ∀ removes,
    steps { d with remove := removes } = before ++ (d.removalSteps removes ++ after) := by
  refine ⟨d.add.map fun f => ⟨d.major, d.minor, .add f.name f.type⟩, d.changeSteps d.change,
    fun removes => ?_⟩
  simp [steps, operations, removalSteps, changeSteps, Function.comp_def]

theorem exists_steps_withChange : ∃ before after, ∀ changes,
    steps { d with change := changes } = before ++ (d.changeSteps changes ++ after) := by
  refine ⟨d.add.map (fun f => ⟨d.major, d.minor, .add f.name f.type⟩) ++ d.removalSteps d.remove,
    [], fun changes => ?_⟩
  simp [steps, operations, removalSteps, changeSteps, Function.comp_def]

theorem pairwise_removalSteps (removes : List RemoveSpec) :
    (d.removalSteps removes).Pairwise fun s s' => Independent s.operation s'.operation :=
  List.pairwise_map.2 (List.pairwise_of_forall fun r r' => .removals r.name r'.name)

/-- Changes are independent if each is of another field. -/
theorem pairwise_changeSteps {changes : List ChangeSpec} (h : (changes.map (·.name)).Nodup) :
    (d.changeSteps changes).Pairwise fun s s' => Independent s.operation s'.operation :=
  List.pairwise_map.2 ((List.pairwise_map.1 h).imp fun hne => .changes hne _ _)

/-- Removals are never recorded. -/
theorem missesOf_removalSteps (t : SlotTable) (removes : List RemoveSpec) :
    t.missesOf (d.removalSteps removes) = [] := by
  induction removes generalizing t with
  | nil => rfl
  | cons r removes ih => exact ih _

end VersionDelta

namespace Message

variable {m m' : Message} {i : Nat} {d : VersionDelta} {before steps steps' after : List Step}

/-- A message with another delta at a position of its history. -/
def withDelta (m : Message) (i : Nat) (d : VersionDelta) : Message :=
  { m with versions := m.versions.set i d }

theorem exists_versions_split (hd : m.versions[i]? = some d) :
    ∃ before after, m.versions = before ++ d :: after ∧
      ∀ d', (m.withDelta i d').versions = before ++ d' :: after := by
  obtain ⟨hlt, rfl⟩ := List.getElem?_eq_some_iff.1 hd
  refine ⟨m.versions.take i, m.versions.drop (i + 1), ?_, fun d' => ?_⟩
  · rw [← List.drop_eq_getElem_cons hlt, List.take_append_drop]
  · exact (List.set_eq_take_append_cons_drop ..).trans (if_pos hlt)

theorem withDelta_self (hd : m.versions[i]? = some d) : m.withDelta i d = m := by
  obtain ⟨hlt, rfl⟩ := List.getElem?_eq_some_iff.1 hd
  rw [withDelta, List.set_getElem_self]

theorem latestMajor_withDelta (hd : m.versions[i]? = some d) {d' : VersionDelta}
    (hmajor : d'.major = d.major) : (m.withDelta i d').latestMajor = m.latestMajor := by
  obtain ⟨before, after, hm, hset⟩ := exists_versions_split hd
  simp [latestMajor, hm, hset, hmajor]

/-- A part of the steps of one delta is a part of the history. -/
theorem exists_history_split {α : Type} (hd : m.versions[i]? = some d) {edit : α → VersionDelta}
    {part : α → List Step}
    (hsteps : ∃ before after, ∀ a, (edit a).steps = before ++ (part a ++ after)) :
    ∃ before after, ∀ a, (m.withDelta i (edit a)).history = before ++ (part a ++ after) := by
  obtain ⟨before, after, -, hset⟩ := exists_versions_split hd
  obtain ⟨earlier, later, hsteps⟩ := hsteps
  refine ⟨before.flatMap VersionDelta.steps ++ earlier, later ++ after.flatMap VersionDelta.steps,
    fun a => ?_⟩
  simp [history, hset, hsteps]

/-- Independent steps in another order, in the middle of a history. -/
theorem alike_of_history_perm (keep : Nat → Bool) (hm : m.history = before ++ (steps ++ after))
    (hm' : m'.history = before ++ (steps' ++ after)) (hperm : steps.Perm steps')
    (hind : steps.Pairwise fun s s' => Independent s.operation s'.operation)
    (hkeep : keep 0 = true → (SlotTable.empty.replay before).missesOf steps = []) :
    (SlotTable.empty.replay m.history).Alike keep (SlotTable.empty.replay m'.history) ∧
      m.unknownChanges.Perm m'.unknownChanges ∧
      (keep 0 = true → m.unknownChanges = m'.unknownChanges) := by
  have hbefore := SlotTable.wellFormed_empty.replay before
  obtain ⟨halike, hmisses⟩ := SlotTable.alike_replay_perm hbefore hperm hind hkeep
  have hreplay (steps : List Step) : SlotTable.empty.replay (before ++ (steps ++ after)) =
      ((SlotTable.empty.replay before).replay steps).replay after := by
    simp only [SlotTable.replay, List.foldl_append]
  have hrecords (steps : List Step) : SlotTable.empty.missesOf (before ++ (steps ++ after)) =
      SlotTable.empty.missesOf before ++ ((SlotTable.empty.replay before).missesOf steps ++
        ((SlotTable.empty.replay before).replay steps).missesOf after) := by
    rw [SlotTable.missesOf_append, SlotTable.missesOf_append]
  rw [unknownChanges, unknownChanges, hm, hm', hreplay, hreplay, hrecords, hrecords,
    halike.missesOf_eq after]
  refine ⟨halike.replay after, (hmisses.append_right _).append_left _, fun hzero => ?_⟩
  have hnone := hkeep hzero
  rw [hnone] at hmisses ⊢
  rw [hmisses.symm.eq_nil]

/-- A replay under a policy is given by the fields and the records of the replay that goes on. -/
theorem resolveWith_congr (hname : m'.name = m.name) (hresolve : m'.resolve = m.resolve)
    (hchanges : m'.unknownChanges = m.unknownChanges) (policy : ChangePolicy) :
    m'.resolveWith policy = m.resolveWith policy := by
  cases policy with
  | zeroIndex => rw [resolveWith, resolveWith, hresolve, hchanges]
  | reject =>
    rw [resolveWith, resolveWith]
    cases h : m.unknownChanges with
    | nil =>
      rw [resolveStrict_of_unknownChanges_nil m h,
        resolveStrict_of_unknownChanges_nil m' (hchanges.trans h), hresolve]
    | cons s rest =>
      rw [resolveStrict_of_unknownChanges_cons m h,
        resolveStrict_of_unknownChanges_cons m' (hchanges.trans h), hname]

theorem resolve_eq_of_alike (hversion : m'.latestMajor = m.latestMajor)
    (h : (SlotTable.empty.replay m.history).Alike (fun _ => true)
      (SlotTable.empty.replay m'.history)) : m'.resolve = m.resolve := by
  rw [resolve, resolve, hversion, h.fields_eq]

/-- The removals of a delta can be listed in any order. -/
theorem resolveWith_withRemove (hd : m.versions[i]? = some d) {removes : List RemoveSpec}
    (h : removes.Perm d.remove) (policy : ChangePolicy) :
    (m.withDelta i { d with remove := removes }).resolveWith policy = m.resolveWith policy := by
  obtain ⟨before, after, hset⟩ := exists_history_split hd d.exists_steps_withRemove
  have hm : m.history = before ++ (d.removalSteps d.remove ++ after) :=
    (congrArg history (withDelta_self hd)).symm.trans (hset d.remove)
  obtain ⟨halike, -, hchanges⟩ := alike_of_history_perm (fun _ => true) hm (hset removes)
    (h.symm.map _) (d.pairwise_removalSteps d.remove) fun _ => d.missesOf_removalSteps _ d.remove
  have hversion : (m.withDelta i { d with remove := removes }).latestMajor = m.latestMajor :=
    latestMajor_withDelta hd rfl
  refine resolveWith_congr ?_ (resolve_eq_of_alike hversion halike) (hchanges rfl).symm policy
  rfl

/-- Changes of different fields are recorded in any order, and leave the same fields if none is
recorded. -/
theorem unknownChanges_withChange (hd : m.versions[i]? = some d) {changes : List ChangeSpec}
    (h : changes.Perm d.change) (hnodup : (d.change.map (·.name)).Nodup) :
    m.unknownChanges.Perm (m.withDelta i { d with change := changes }).unknownChanges ∧
      (m.unknownChanges = [] → (m.withDelta i { d with change := changes }).resolve = m.resolve) ∧
      (SlotTable.empty.replay m.history).Alike (· != 0)
        (SlotTable.empty.replay (m.withDelta i { d with change := changes }).history) := by
  obtain ⟨before, after, hset⟩ := exists_history_split hd d.exists_steps_withChange
  have hm : m.history = before ++ (d.changeSteps d.change ++ after) :=
    (congrArg history (withDelta_self hd)).symm.trans (hset d.change)
  have hperm : (d.changeSteps d.change).Perm (d.changeSteps changes) := h.symm.map _
  have hind := d.pairwise_changeSteps hnodup
  obtain ⟨halike, hrecords, -⟩ :=
    alike_of_history_perm (· != 0) hm (hset changes) hperm hind (by simp)
  refine ⟨hrecords, fun hnone => ?_, halike⟩
  have hpart : (SlotTable.empty.replay before).missesOf (d.changeSteps d.change) = [] := by
    rw [unknownChanges, hm, SlotTable.missesOf_append, SlotTable.missesOf_append] at hnone
    exact (List.append_eq_nil_iff.1 (List.append_eq_nil_iff.1 hnone).2).1
  obtain ⟨halike, -⟩ :=
    alike_of_history_perm (fun _ => true) hm (hset changes) hperm hind fun _ => hpart
  exact resolve_eq_of_alike (latestMajor_withDelta hd rfl) halike

/-- **Independent operations can be listed in any order.** Let a delta of a message list its
removals in another order. Then the replay has the same result and the same log under both policies.
Let it list its changes in another order, no two of them of one field. Then the replay that fails
does so for both or for none, and gives the same fields if it does not fail. The replay that goes on
gives the same version and the same fields, found under the same names, and only the fields at index
0, which stand first, may have changed places. -/
theorem resolveWith_reordered (m : Message) (i : Nat) (d : VersionDelta)
    (hd : m.versions[i]? = some d) :
    (∀ removes, removes.Perm d.remove → ∀ policy,
      (m.withDelta i { d with remove := removes }).resolveWith policy = m.resolveWith policy) ∧
    ∀ changes, changes.Perm d.change → (d.change.map (·.name)).Nodup →
      let m' := m.withDelta i { d with change := changes }
      ((∃ e, (m'.resolveWith .reject).outcome = .error e) ↔
        ∃ e, (m.resolveWith .reject).outcome = .error e) ∧
      (∀ r, (m'.resolveWith .reject).outcome = .ok r ↔ (m.resolveWith .reject).outcome = .ok r) ∧
      ∃ r r', (m.resolveWith .zeroIndex).outcome = .ok r ∧
        (m'.resolveWith .zeroIndex).outcome = .ok r' ∧ r'.version = r.version ∧
        r'.fields.Perm r.fields ∧ (∀ name, r'.get? name = r.get? name) ∧
        ∃ tied tied' rest, r.fields = tied ++ rest ∧ r'.fields = tied' ++ rest ∧
          tied'.Perm tied ∧ ∀ f ∈ tied, f.index = 0 := by
  refine ⟨fun removes h => resolveWith_withRemove hd h, fun changes h hnodup => ?_⟩
  intro m'
  obtain ⟨hrecords, hresolve, halike⟩ := unknownChanges_withChange hd h hnodup
  have hnil : m'.unknownChanges = [] ↔ m.unknownChanges = [] :=
    ⟨fun hnone => (hnone ▸ hrecords).eq_nil, fun hnone => (hnone ▸ hrecords).symm.eq_nil⟩
  have hfails : ∀ m : Message,
      (∃ e, (m.resolveWith .reject).outcome = .error e) ↔ m.unknownChanges ≠ [] := by
    intro m
    simp only [resolveWith_reject_eq_error_iff]
    cases m.unknownChanges <;> simp
  have hperm : m'.resolve.fields.Perm m.resolve.fields := halike.perm_fields.symm
  refine ⟨by rw [hfails, hfails, ne_eq, hnil], fun r => ?_, m.resolve, m'.resolve, rfl, rfl,
    latestMajor_withDelta hd rfl, hperm, fun name => ?_, halike.exists_fields_eq_append⟩
  · rw [resolveWith_reject_eq_ok_iff, resolveWith_reject_eq_ok_iff, hnil]
    exact and_congr_right fun hnone => by rw [hresolve hnone]
  · ext f
    rw [FieldSet.get?_eq_some_iff m'.nodup_names, FieldSet.get?_eq_some_iff m.nodup_names,
      hperm.mem_iff]

/-- A delta that removes two fields and changes three, two of which are not live. -/
def regroup : VersionDelta where
  major := 2
  remove := [{ name := "wing" }, { name := "tail", default := some "0" }]
  change := [
    { name := "ghost", type := "Unit*" },
    { name := "lead", type := "long" },
    { name := "spook", type := "int" }]

/-- A message that adds one of the removed fields again in the end. -/
def patrol : Message where
  id := 9
  name := "Patrol"
  versions := [
    { major := 1
      add := [
        { name := "lead", type := "int" },
        { name := "wing", type := "Unit" },
        { name := "tail", type := "int" }] },
    regroup,
    { major := 3
      add := [{ name := "wing", type := "Unit[]" }] }]

/-- The removals and the changes of a delta from last to first. The two fields at index 0 that are
not live before it change places. -/
theorem resolveWith_reordered_patrol :
    patrol.versions[1]? = some regroup ∧ (regroup.change.map (·.name)).Nodup ∧
    (∀ policy, (patrol.withDelta 1 { regroup with remove := regroup.remove.reverse }).resolveWith
      policy = patrol.resolveWith policy) ∧
    (∀ name, (patrol.withDelta 1 { regroup with change := regroup.change.reverse }).resolve.get?
      name = patrol.resolve.get? name) ∧
    patrol.resolve.names = ["lead", "ghost", "spook", "wing"] ∧
    (patrol.withDelta 1 { regroup with change := regroup.change.reverse }).resolve.names =
      ["lead", "spook", "ghost", "wing"] := by
  have hnodup : (regroup.change.map (·.name)).Nodup := by decide
  obtain ⟨hremoves, hchanges⟩ := resolveWith_reordered patrol 1 regroup rfl
  obtain ⟨-, -, r, r', hr, hr', -, -, hget, -⟩ :=
    hchanges regroup.change.reverse (List.reverse_perm _) hnodup
  obtain rfl := Except.ok.inj hr
  obtain rfl := Except.ok.inj hr'
  have hnames : ∀ m : Message, (SlotTable.empty.replay m.history).roster.Pairwise
      (fun a b => a.index ≤ b.index) →
      m.resolve.names = (SlotTable.empty.replay m.history).roster.map (·.name) := fun m h => by
    rw [FieldSet.names, resolve, SlotTable.fields_of_pairwise h, List.map_map]
    rfl
  exact ⟨rfl, hnodup, hremoves _ (List.reverse_perm _), hget,
    (hnames _ (by decide)).trans (by decide), (hnames _ (by decide)).trans (by decide)⟩

end Message

end WireSchema
