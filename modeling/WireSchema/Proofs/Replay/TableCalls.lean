import Mathlib.Data.Set.Function
import WireSchema.Proofs.Replay.LiveSlots

/-!
# Tables under any sequence of calls

A replay calls the operations of a table in a few patterns only. This file follows a table through
any sequence of additions, removals, changes and insertions, whatever their names and indices. The
map and the slots agree after every sequence, although the operations update them one by one: the
fields that the map finds and the slots that are not tombstones correspond one-to-one. Slots are
only appended. A slot stays at its position under its name and its index, and once it is a
tombstone nothing about it changes any more. The additions hand out the indices 0, 1, 2, … in
turn, whatever is called between them.

## Main definitions

* `SlotTable.Call`, `SlotTable.call`, `SlotTable.run`: the calls, and the table after one of them
  and after a sequence.
* `SlotTable.callsOf`: the calls that perform an operation of a replay.
* `SlotTable.liveNames`, `SlotTable.standing`: the fields that the map finds, and the positions of
  the slots that are not tombstones.
* `Slot.Becomes`, `SlotTable.Grows`: what a slot and a table may become later.
* `SlotTable.handedOut`: the indices that the additions of a sequence hand out.

## Main results

* `SlotTable.WellFormed.call`, `SlotTable.WellFormed.run`: the map and the slots agree.
* `SlotTable.WellFormed.grows_call`, `SlotTable.WellFormed.grows_run`: a table only grows.
* `SlotTable.run_invariant`: tables after any sequence of calls.
-/

namespace WireSchema

/-! ### Calls -/

namespace SlotTable

variable {t : SlotTable}

/-- A call of an operation of a table. -/
inductive Call
  | add (name type : String)
  | remove (name : String)
  | change (name type : String)
  | insertAt (name : String) (index : Nat) (type : String)
  deriving DecidableEq, Repr

/-- The table after a call. A change of a field that is not live leaves it as it is. -/
def call (t : SlotTable) : Call → SlotTable
  | .add name type => (t.add name type).2
  | .remove name => (t.remove name).2
  | .change name type => (t.change name type).getD t
  | .insertAt name index type => t.insertAt name index type

/-- The table after a sequence of calls. -/
def run (t : SlotTable) (calls : List Call) : SlotTable :=
  calls.foldl call t

theorem run_cons (t : SlotTable) (c : Call) (calls : List Call) :
    t.run (c :: calls) = (t.call c).run calls := rfl

theorem run_append (t : SlotTable) (calls later : List Call) :
    t.run (calls ++ later) = (t.run calls).run later :=
  List.foldl_append

/-- The calls that perform an operation of a replay. -/
def callsOf (t : SlotTable) : Operation → List Call
  | .add name type => [.add name type]
  | .remove name => [.remove name]
  | .change name type =>
    if t.misses (.change name type) then [.change name type, .insertAt name 0 type]
    else [.change name type]

theorem run_callsOf (t : SlotTable) (op : Operation) : t.run (t.callsOf op) = t.perform op := by
  cases op with
  | add name type => rfl
  | remove name => rfl
  | change name type =>
    cases hpos : t.position? name <;>
      simp [callsOf, misses, hpos, run, call, perform, SlotTable.change]

/-- A change either retypes a live slot or leaves the table as it is. -/
theorem call_change_cases (t : SlotTable) (name type : String) :
    (∃ pos, t.position? name = some pos ∧ t.call (.change name type) =
      { t with slots := t.slots.modify pos fun s => { s with type } }) ∨
    t.call (.change name type) = t := by
  cases hpos : t.position? name with
  | none => exact .inr (by simp [call, SlotTable.change, hpos])
  | some pos => exact .inl ⟨pos, rfl, by simp [call, SlotTable.change, hpos]⟩

/-! ### The map and the slots -/

theorem WellFormed.call (h : t.WellFormed) (c : Call) : (t.call c).WellFormed := by
  cases c with
  | add name type => exact h.add
  | remove name => exact h.remove
  | change name type =>
    cases hc : t.change name type with
    | none => simpa [SlotTable.call, hc] using h
    | some t' => simpa [SlotTable.call, hc] using h.change hc
  | insertAt name index type => exact h.insertAt

theorem WellFormed.run (h : t.WellFormed) (calls : List Call) : (t.run calls).WellFormed := by
  induction calls generalizing t with
  | nil => exact h
  | cons c calls ih => exact ih (h.call c)

/-- The fields that the map finds. -/
def liveNames (t : SlotTable) : Set String :=
  {name | (t.position? name).isSome}

/-- The positions of the slots that are not tombstones. -/
def standing (t : SlotTable) : Set Nat :=
  {pos | ∃ s, t.slots[pos]? = some s ∧ s.removed = false}

/-- The map leads from the live fields to the slots that are not tombstones, one-to-one. -/
theorem WellFormed.bijOn_position? (h : t.WellFormed) :
    Set.BijOn t.position? t.liveNames (some '' t.standing) := by
  refine ⟨?_, ?_, ?_⟩
  · intro name hname
    obtain ⟨pos, hpos⟩ := Option.isSome_iff_exists.1 hname
    obtain ⟨s, hs, -, hremoved⟩ := (h name pos).1 hpos
    exact ⟨pos, ⟨s, hs, hremoved⟩, hpos.symm⟩
  · -- two fields at one position are the name of the slot there
    intro name hname name' _ heq
    obtain ⟨pos, hpos⟩ := Option.isSome_iff_exists.1 hname
    obtain ⟨s, hs, rfl, -⟩ := (h name pos).1 hpos
    obtain ⟨s', hs', rfl, -⟩ := (h name' pos).1 (heq.symm.trans hpos)
    rw [Option.some.inj (hs.symm.trans hs')]
  · rintro _ ⟨pos, ⟨s, hs, hremoved⟩, rfl⟩
    have hpos : t.position? s.name = some pos := (h s.name pos).2 ⟨s, hs, rfl, hremoved⟩
    exact ⟨s.name, Option.isSome_iff_exists.2 ⟨pos, hpos⟩, hpos⟩

theorem nodup_live_remove (h : (t.live.map Prod.fst).Nodup) (name : String) :
    ((t.remove name).2.live.map Prod.fst).Nodup := by
  unfold remove
  split
  · exact h.sublist (List.filter_sublist.map Prod.fst)
  · exact h

theorem nodup_live_insertAt (h : (t.live.map Prod.fst).Nodup) (name : String) (index : Nat)
    (type : String) : ((t.insertAt name index type).live.map Prod.fst).Nodup := by
  have hnone : (t.remove name).2.live.lookup name = none :=
    (position?_remove t name name).trans (if_pos rfl)
  refine List.nodup_cons.2 ⟨fun hmem => ?_, nodup_live_remove h name⟩
  obtain ⟨entry, hentry, rfl⟩ := List.mem_map.1 hmem
  simpa using List.lookup_eq_none_iff.1 hnone entry hentry

/-- No call gives a field a second entry in the map. -/
theorem nodup_live_call (h : (t.live.map Prod.fst).Nodup) (c : Call) :
    ((t.call c).live.map Prod.fst).Nodup := by
  cases c with
  | add name type => exact nodup_live_insertAt h name t.nextIndex type
  | remove name => exact nodup_live_remove h name
  | change name type =>
    rcases t.call_change_cases name type with ⟨pos, -, heq⟩ | heq <;> rw [heq] <;> exact h
  | insertAt name index type => exact nodup_live_insertAt h name index type

theorem nodup_live_run (h : (t.live.map Prod.fst).Nodup) (calls : List Call) :
    ((t.run calls).live.map Prod.fst).Nodup := by
  induction calls generalizing t with
  | nil => exact h
  | cons c calls ih => exact ih (nodup_live_call h c)

end SlotTable

/-! ### Growing tables -/

/-- What a slot may become later: it keeps its name and its index, and a tombstone keeps all that
it has. -/
structure Slot.Becomes (s s' : Slot) : Prop where
  name_eq : s'.name = s.name
  index_eq : s'.index = s.index
  eq_of_removed : s.removed = true → s' = s

theorem Slot.Becomes.refl (s : Slot) : s.Becomes s :=
  ⟨rfl, rfl, fun _ => rfl⟩

theorem Slot.Becomes.trans {s s' s'' : Slot} (h : s.Becomes s') (h' : s'.Becomes s'') :
    s.Becomes s'' where
  name_eq := h'.name_eq.trans h.name_eq
  index_eq := h'.index_eq.trans h.index_eq
  eq_of_removed hremoved := by
    obtain rfl := h.eq_of_removed hremoved
    exact h'.eq_of_removed hremoved

namespace SlotTable

variable {t t' t'' : SlotTable} {name : String} {pos : Nat}

/-- A table may grow into another when that has all of its slots at their positions. -/
def Grows (t t' : SlotTable) : Prop :=
  ∀ (pos : Nat) (s : Slot), t.slots[pos]? = some s →
    ∃ s', t'.slots[pos]? = some s' ∧ s.Becomes s'

theorem Grows.refl (t : SlotTable) : t.Grows t :=
  fun _ s hs => ⟨s, hs, .refl s⟩

theorem Grows.trans (h : t.Grows t') (h' : t'.Grows t'') : t.Grows t'' := by
  intro pos s hs
  obtain ⟨s', hs', hbecomes⟩ := h pos s hs
  obtain ⟨s'', hs'', hbecomes'⟩ := h' pos s' hs'
  exact ⟨s'', hs'', hbecomes.trans hbecomes'⟩

/-- The slot that the map finds is no tombstone, so it may get another type or become one. -/
theorem WellFormed.grows_modify (h : t.WellFormed) (hpos : t.position? name = some pos)
    {f : Slot → Slot} (hslots : t'.slots = t.slots.modify pos f)
    (hname : ∀ s, (f s).name = s.name) (hindex : ∀ s, (f s).index = s.index) : t.Grows t' := by
  intro i s hs
  rw [hslots, List.getElem?_modify, hs]
  split_ifs with hi
  · obtain ⟨live, hlive, -, hremoved⟩ := (h name pos).1 hpos
    obtain rfl : live = s := Option.some.inj (hlive.symm.trans (hi ▸ hs))
    exact ⟨f live, rfl, hname live, hindex live, fun hs => by simp [hremoved] at hs⟩
  · exact ⟨s, rfl, .refl s⟩

theorem WellFormed.grows_remove (h : t.WellFormed) (name : String) : t.Grows (t.remove name).2 := by
  cases hpos : t.position? name with
  | none =>
    rw [SlotTable.remove, hpos]
    exact .refl t
  | some pos =>
    have hslots : (t.remove name).2.slots =
        t.slots.modify pos fun s => { s with removed := true } := by
      rw [SlotTable.remove, hpos]
    exact h.grows_modify hpos hslots (fun _ => rfl) fun _ => rfl

theorem WellFormed.grows_insertAt (h : t.WellFormed) (name : String) (index : Nat)
    (type : String) : t.Grows (t.insertAt name index type) := by
  refine (h.grows_remove name).trans fun pos s hs => ⟨s, ?_, .refl s⟩
  rw [slots_insertAt, List.getElem?_append_left (List.getElem?_eq_some_iff.1 hs).1, hs]

theorem WellFormed.grows_call (h : t.WellFormed) (c : Call) : t.Grows (t.call c) := by
  cases c with
  | add name type => exact h.grows_insertAt name t.nextIndex type
  | remove name => exact h.grows_remove name
  | change name type =>
    rcases t.call_change_cases name type with ⟨pos, hpos, heq⟩ | heq
    · exact h.grows_modify hpos (congrArg slots heq) (fun _ => rfl) fun _ => rfl
    · rw [heq]
      exact .refl t
  | insertAt name index type => exact h.grows_insertAt name index type

theorem WellFormed.grows_run (h : t.WellFormed) (calls : List Call) : t.Grows (t.run calls) := by
  induction calls generalizing t with
  | nil => exact .refl t
  | cons c calls ih => exact (h.grows_call c).trans (ih (h.call c))

/-! ### Indices -/

/-- The index that a call hands out: that which an addition gives. -/
def handedIndex? (t : SlotTable) : Call → Option Nat
  | .add name type => some (t.add name type).1
  | _ => none

/-- An addition appends a live slot under the index that it gives. -/
theorem getLast?_slots_add (t : SlotTable) (name type : String) :
    (t.add name type).2.slots.getLast? = some { name, index := (t.add name type).1, type } := by
  simp [add, slots_insertAt]

/-- A removal says whether the field was live. -/
theorem remove_fst (t : SlotTable) (name : String) :
    (t.remove name).1 = (t.position? name).isSome := by
  unfold remove
  split <;> simp_all

/-- The indices that the additions of a sequence hand out, in turn. -/
def handedOut (t : SlotTable) : List Call → List Nat
  | [] => []
  | c :: calls => (t.handedIndex? c).toList ++ (t.call c).handedOut calls

theorem range_append_handedIndex? (t : SlotTable) (c : Call) :
    List.range t.nextIndex ++ (t.handedIndex? c).toList = List.range (t.call c).nextIndex := by
  cases c with
  | add name type => exact List.range_succ.symm
  | remove name => simp [handedIndex?, call]
  | change name type =>
    rcases t.call_change_cases name type with ⟨pos, -, heq⟩ | heq <;> simp [handedIndex?, heq]
  | insertAt name index type => simp [handedIndex?, call, insertAt]

/-- The indices below the next one are those below the former next one, and then those that were
handed out. -/
theorem range_append_handedOut (t : SlotTable) (calls : List Call) :
    List.range t.nextIndex ++ t.handedOut calls = List.range (t.run calls).nextIndex := by
  induction calls generalizing t with
  | nil => exact List.append_nil _
  | cons c calls ih => rw [handedOut, ← List.append_assoc, range_append_handedIndex?, ih, run_cons]

/-! ### Any sequence of calls -/

/-- **A table stays consistent under any calls.** After any sequence of calls on the empty table,
the map sends a field to a position exactly if the slot there has its name and is not a tombstone.
So a position that the map gives lies within the slots, and the live fields correspond one-to-one
to the slots that are not tombstones. However the sequence goes on, every slot stays at its
position with its name and its index, and a tombstone stays what it is. The additions have handed
out the indices 0, 1, 2, … below the next one, and the next addition appends a live slot under the
index that it hands out. A removal says whether it has found a live field. -/
theorem run_invariant (calls later : List Call) :
    (∀ name pos, (empty.run calls).position? name = some pos ↔
      ∃ s, (empty.run calls).slots[pos]? = some s ∧ s.name = name ∧ s.removed = false) ∧
    (∀ name pos, (empty.run calls).position? name = some pos →
      pos < (empty.run calls).slots.length) ∧
    ((empty.run calls).live.map Prod.fst).Nodup ∧
    Set.BijOn (empty.run calls).position? (empty.run calls).liveNames
      (some '' (empty.run calls).standing) ∧
    (empty.run calls).Grows (empty.run (calls ++ later)) ∧
    empty.handedOut calls = List.range (empty.run calls).nextIndex ∧
    (∀ name type, ((empty.run calls).add name type).2.slots.getLast? =
      some { name, index := ((empty.run calls).add name type).1, type }) ∧
    (∀ name, ((empty.run calls).remove name).1 = true ↔ name ∈ (empty.run calls).liveNames) := by
  have hwell : (empty.run calls).WellFormed := wellFormed_empty.run calls
  refine ⟨hwell, fun name pos => hwell.lt_length, nodup_live_run (t := empty) List.nodup_nil calls,
    hwell.bijOn_position?, ?_, range_append_handedOut empty calls,
    getLast?_slots_add (empty.run calls), fun name => by rw [remove_fst]; rfl⟩
  rw [run_append]
  exact hwell.grows_run later

/-- Calls that add a live field again, and insert another at an index that was handed out. -/
def rosterCalls : List Call :=
  [.add "hull" "int", .add "crew" "Unit[]", .add "hull" "short", .remove "crew",
    .insertAt "crew" 1 "Unit"]

/-- Two fields have left a tombstone each, and the map finds their new slots. A later removal
leaves the slots where they are. -/
theorem run_invariant_rosterCalls :
    (empty.run rosterCalls).slots =
        [⟨"hull", 0, "int", true⟩, ⟨"crew", 1, "Unit[]", true⟩, ⟨"hull", 2, "short", false⟩,
          ⟨"crew", 1, "Unit", false⟩] ∧
      (empty.run rosterCalls).position? "crew" = some 3 ∧
      3 < (empty.run rosterCalls).slots.length ∧
      (empty.run rosterCalls).Grows (empty.run (rosterCalls ++ [.remove "crew"])) ∧
      empty.handedOut rosterCalls = [0, 1, 2] := by
  obtain ⟨-, hbound, -, -, hgrows, hindices, -, -⟩ := run_invariant rosterCalls [.remove "crew"]
  have hcrew : (empty.run rosterCalls).position? "crew" = some 3 := by decide +kernel
  exact ⟨by decide +kernel, hcrew, hbound "crew" 3 hcrew, hgrows,
    hindices.trans (by decide +kernel)⟩

end SlotTable

end WireSchema
