import Mathlib.Tactic.Common
import WireSchema.Proofs.Replay.Policies

/-!
# Longer histories

Deltas that are put at the end of a history leave the fields alone that they neither add nor
remove: these *survivors* keep their indices and their order, and every field that the new deltas
add stands after all of them. Where no change of an unknown field occurs, the survivors and the
added fields are all there is.

## Main definitions

* `Message.extendBy`: a message with further deltas.
* `VersionDelta.touches`, `Message.survivors`: the fields that further deltas neither add nor
  remove.

## Main results

* `Message.precedes_of_added`: an added field stands after every survivor.
* `Message.mem_survivors_or_added`: without unknown changes, every field is a survivor or added.
* `Message.survivors_keep_layout`: the layout after further deltas.
-/

namespace WireSchema

open Operation

/-- Does the delta add or remove the field? -/
def VersionDelta.touches (d : VersionDelta) (name : String) : Bool :=
  d.add.any (·.name == name) || d.remove.any (·.name == name)

theorem VersionDelta.touches_eq_false_iff {d : VersionDelta} {name : String} :
    d.touches name = false ↔
      ∀ op ∈ d.operations, op.adds name = false ∧ op.removes name = false := by
  simp only [touches, operations, Bool.or_eq_false_iff, List.any_eq_false, List.mem_append,
    List.mem_map]
  constructor
  · rintro ⟨hadd, hremove⟩ op ((⟨f, hf, rfl⟩ | ⟨r, hr, rfl⟩) | ⟨c, hc, rfl⟩)
    · exact ⟨by simpa [adds] using hadd f hf, rfl⟩
    · exact ⟨rfl, by simpa [removes] using hremove r hr⟩
    · exact ⟨rfl, rfl⟩
  · intro h
    constructor
    · intro f hf
      simpa [adds] using (h _ (Or.inl (Or.inl ⟨f, hf, rfl⟩))).1
    · intro r hr
      simpa [removes] using (h _ (Or.inl (Or.inr ⟨r, hr, rfl⟩))).2

namespace Message

/-- A message with further deltas at the end of its history. -/
def extendBy (m : Message) (ds : List VersionDelta) : Message :=
  { m with versions := m.versions ++ ds }

/-- The fields of a message that further deltas neither add nor remove, in their order. -/
def survivors (m : Message) (ds : List VersionDelta) : List ResolvedField :=
  m.resolve.fields.filter fun f => ds.all fun d => !d.touches f.name

variable {m : Message} {ds : List VersionDelta} {name : String}

theorem operations_extendBy (m : Message) (ds : List VersionDelta) :
    (m.extendBy ds).operations = m.operations ++ ds.flatMap VersionDelta.operations :=
  List.flatMap_append

/-! ### Survivors -/

theorem mem_survivors_names_iff :
    name ∈ (m.survivors ds).map (·.name) ↔ (creation? m.operations name).isSome ∧
      ∀ op ∈ ds.flatMap VersionDelta.operations,
        op.adds name = false ∧ op.removes name = false := by
  have hall : (ds.all fun d => !d.touches name) = true ↔
      ∀ op ∈ ds.flatMap VersionDelta.operations,
        op.adds name = false ∧ op.removes name = false := by
    simp only [List.all_eq_true, Bool.not_eq_true', VersionDelta.touches_eq_false_iff,
      List.mem_flatMap]
    exact ⟨fun h op ⟨d, hd, hop⟩ => h d hd op hop, fun h d hd op hop => h op ⟨d, hd, hop⟩⟩
  rw [← mem_names_iff, ← hall, FieldSet.names, survivors]
  simp only [List.mem_map, List.mem_filter]
  constructor
  · rintro ⟨f, ⟨hf, hkeep⟩, rfl⟩
    exact ⟨⟨f, hf, rfl⟩, hkeep⟩
  · rintro ⟨⟨f, hf, rfl⟩, hkeep⟩
    exact ⟨f, ⟨hf, hkeep⟩, rfl⟩

theorem extendBy_of_mem_survivors (h : name ∈ (m.survivors ds).map (·.name)) :
    creation? (m.extendBy ds).operations name = creation? m.operations name ∧
      wireIndex (m.extendBy ds).operations name = wireIndex m.operations name := by
  obtain ⟨hlive, huntouched⟩ := mem_survivors_names_iff.1 h
  rw [operations_extendBy]
  exact append_of_untouched hlive huntouched

/-- The survivors keep their order. -/
theorem pairwise_survivors (m : Message) (ds : List VersionDelta) :
    ((m.survivors ds).map (·.name)).Pairwise (Precedes (m.extendBy ds).operations) := by
  have hsub : ((m.survivors ds).map (·.name)).Sublist m.resolve.names :=
    List.filter_sublist.map _
  refine List.Pairwise.imp_of_mem (fun {a b} ha hb hab => ?_) (m.pairwise_names.sublist hsub)
  obtain ⟨hca, hia⟩ := extendBy_of_mem_survivors ha
  obtain ⟨hcb, hib⟩ := extendBy_of_mem_survivors hb
  rwa [Precedes, hca, hia, hcb, hib]

theorem survivors_names_subset (m : Message) (ds : List VersionDelta) :
    (m.survivors ds).map (·.name) ⊆ (m.extendBy ds).resolve.names := fun name h => by
  rw [mem_names_iff, (extendBy_of_mem_survivors h).1]
  exact (mem_survivors_names_iff.1 h).1

/-! ### Added fields -/

/-- A field whose last addition lies in the further deltas stands after every survivor. -/
theorem precedes_of_added {a b : String} {i : Nat} (ha : a ∈ (m.survivors ds).map (·.name))
    (hb : standingAdd? (m.extendBy ds).operations b = some i) (hi : m.operations.length ≤ i) :
    Precedes (m.extendBy ds).operations a b := by
  obtain ⟨hcreation, hindex⟩ := extendBy_of_mem_survivors ha
  obtain ⟨j, hj⟩ := Option.isSome_iff_exists.1 (mem_survivors_names_iff.1 ha).1
  obtain ⟨hb', hindexb⟩ := of_standingAdd? hb
  have hle : wireIndex (m.extendBy ds).operations a ≤ wireIndex (m.extendBy ds).operations b := by
    rw [hindex, hindexb, operations_extendBy]
    refine (wireIndex_le_countP m.operations a).trans ?_
    exact (List.prefix_take_iff.2 ⟨List.prefix_append _ _, hi⟩).sublist.countP_le
  rcases Nat.lt_or_eq_of_le hle with hlt | heq
  · exact Or.inl hlt
  · refine Or.inr ⟨heq, ?_⟩
    rw [hcreation, hj, hb', Option.some_lt_some]
    exact (creation?_lt hj).trans_le hi

/-- Without changes of unknown fields, a field is a survivor or its last addition lies in the
further deltas. -/
theorem mem_survivors_or_added (haccept : (m.extendBy ds).unknownChanges = [])
    (h : name ∈ (m.extendBy ds).resolve.names) :
    name ∈ (m.survivors ds).map (·.name) ∨
      ∃ i, standingAdd? (m.extendBy ds).operations name = some i ∧ m.operations.length ≤ i := by
  have hstand := SlotTable.creation?_eq_standingAdd? haccept name
  rw [map_operation_history] at hstand
  obtain ⟨i, hi⟩ := Option.isSome_iff_exists.1 (hstand ▸ mem_names_iff.1 h)
  rcases Nat.lt_or_ge i m.operations.length with hlt | hge
  · rw [operations_extendBy] at hi
    obtain ⟨hbefore, huntouched⟩ := standingAdd?_of_append hi hlt
    refine Or.inl (mem_survivors_names_iff.2 ⟨?_, huntouched⟩)
    rw [(of_standingAdd? hbefore).1]
    rfl
  · exact Or.inr ⟨i, hi, hge⟩

/-- Without changes of unknown fields, the survivors come first and the added fields follow. -/
theorem exists_names_eq_append (haccept : (m.extendBy ds).unknownChanges = []) :
    ∃ added, (m.extendBy ds).resolve.names = (m.survivors ds).map (·.name) ++ added ∧
      ∀ name, name ∈ added ↔ ∃ i,
        standingAdd? (m.extendBy ds).operations name = some i ∧ m.operations.length ≤ i := by
  set kept := (m.survivors ds).map (·.name)
  set names := (m.extendBy ds).resolve.names
  have hadded : ∀ name, name ∈ names.filter (! kept.contains ·) ↔ ∃ i,
      standingAdd? (m.extendBy ds).operations name = some i ∧ m.operations.length ≤ i := by
    intro name
    rw [List.mem_filter]
    constructor
    · rintro ⟨hmem, hnot⟩
      exact (mem_survivors_or_added haccept hmem).resolve_left fun hkept => by
        simp [kept, hkept] at hnot
    · rintro ⟨i, hi, hle⟩
      refine ⟨mem_names_iff.2 (by simp [(of_standingAdd? hi).1]), ?_⟩
      have hnot : name ∉ kept := fun hkept =>
        Std.Irrefl.irrefl name (precedes_of_added hkept hi hle)
      simpa using hnot
  refine ⟨names.filter (! kept.contains ·), ?_, hadded⟩
  refine List.Pairwise.eq_of_mem_iff (m.extendBy ds).pairwise_names ?_ fun name => ?_
  · refine List.pairwise_append.2 ⟨m.pairwise_survivors ds,
      (m.extendBy ds).pairwise_names.filter _, fun a ha b hb => ?_⟩
    obtain ⟨i, hi, hle⟩ := (hadded b).1 hb
    exact precedes_of_added ha hi hle
  · rw [List.mem_append, List.mem_filter]
    have hsub : name ∈ kept → name ∈ names := fun h => m.survivors_names_subset ds h
    by_cases hkept : name ∈ kept <;> simp [hkept, hsub]

/-- Without changes of unknown fields, the last addition of a field stands exactly if the field is
live. -/
theorem standingAdd?_eq_some_iff {i : Nat} (haccept : m.unknownChanges = []) :
    standingAdd? m.operations name = some i ↔
      IsLive m.operations name ∧ lastPosition? (adds name) m.operations = some i := by
  have hstand := SlotTable.creation?_eq_standingAdd? haccept name
  rw [map_operation_history] at hstand
  rw [isLive_iff, hstand]
  constructor
  · exact fun h => ⟨by simp [h], lastPosition?_of_standingAdd? h⟩
  · rintro ⟨hlive, hlast⟩
    obtain ⟨j, hj⟩ := Option.isSome_iff_exists.1 hlive
    rw [hj, ← lastPosition?_of_standingAdd? hj, hlast]

theorem map_place_survivors (m : Message) (ds : List VersionDelta) :
    (m.survivors ds).map (fun f => (f.index, f.name)) =
      ((m.survivors ds).map (·.name)).map fun n => (wireIndex (m.extendBy ds).operations n, n) := by
  rw [List.map_map]
  refine List.map_congr_left fun f hf => ?_
  have hindex := (mem_fields_iff.1 (List.mem_filter.1 hf).1).2.1
  rw [Function.comp_apply, (extendBy_of_mem_survivors (List.mem_map_of_mem hf)).2, hindex]

/-- **Further deltas keep the layout of what they do not touch.** The survivors are present with
their indices and in their order, and every field whose last addition lies in the further deltas
and is not followed by a removal stands after all of them. If the longer history is accepted under
the policy that rejects unknown changes, its fields are the survivors in their order followed by
the live fields last added in the further deltas, in the order of these additions. -/
theorem survivors_keep_layout (m : Message) (ds : List VersionDelta) :
    ((m.survivors ds).map fun f => (f.index, f.name)).Sublist
      ((m.extendBy ds).resolve.fields.map fun f => (f.index, f.name)) ∧
    (∀ f ∈ m.survivors ds, ∀ g ∈ (m.extendBy ds).resolve.fields, ∀ i,
      standingAdd? (m.extendBy ds).operations g.name = some i → m.operations.length ≤ i →
      [f.name, g.name].Sublist (m.extendBy ds).resolve.names) ∧
    ∀ r, ((m.extendBy ds).resolveWith .reject).outcome = .ok r →
      r = (m.extendBy ds).resolve ∧
      ∃ added, r.names = (m.survivors ds).map (·.name) ++ added ∧
        (∀ name, name ∈ added ↔ IsLive (m.extendBy ds).operations name ∧
          ∃ i, lastPosition? (adds name) (m.extendBy ds).operations = some i ∧
            m.operations.length ≤ i) ∧
        added.Pairwise fun a b => lastPosition? (adds a) (m.extendBy ds).operations <
          lastPosition? (adds b) (m.extendBy ds).operations := by
  refine ⟨?_, ?_, ?_⟩
  · rw [map_place_survivors, map_place_fields]
    exact ((m.extendBy ds).sublist_names (m.pairwise_survivors ds)
      (m.survivors_names_subset ds)).map _
  · intro f hf g hg i hi hle
    have hf' := List.mem_map_of_mem (f := (·.name)) hf
    refine (m.extendBy ds).sublist_names
      (List.pairwise_pair.2 (precedes_of_added hf' hi hle)) ?_
    have hg' : g.name ∈ (m.extendBy ds).resolve.names := List.mem_map_of_mem hg
    simpa using ⟨m.survivors_names_subset ds hf', hg'⟩
  · intro r hr
    obtain ⟨haccept, rfl⟩ := resolveWith_reject_eq_ok_iff.1 hr
    obtain ⟨added, hnames, hadded⟩ := exists_names_eq_append haccept
    refine ⟨rfl, added, hnames, fun name => ?_, ?_⟩
    · simp only [hadded, standingAdd?_eq_some_iff haccept, and_assoc, exists_and_left]
    · have hpair := (m.extendBy ds).pairwise_names.sublist
        (hnames ▸ List.sublist_append_right _ _)
      refine List.Pairwise.imp_of_mem (fun {a b} ha hb hab => ?_) hpair
      obtain ⟨i, hi, -⟩ := (hadded a).1 ha
      obtain ⟨j, hj, -⟩ := (hadded b).1 hb
      rw [lastPosition?_of_standingAdd? hi, lastPosition?_of_standingAdd? hj, Option.some_lt_some]
      exact lt_of_precedes hi hj hab

/-- A delta for `chat` that adds the removed field again, next to a new one. -/
def chatRooms : VersionDelta where
  major := 3
  add := [{ name := "topic", type := "String" }, { name := "room", type := "Room*" }]
  change := [{ name := "text", type := "Text*" }]

/-- The changed field survives, and both added fields follow it. -/
theorem survivors_keep_layout_chat :
    chat.survivors [chatRooms] = [{ index := 0, name := "text", type := "String[]" }] ∧
    standingAdd? (chat.extendBy [chatRooms]).operations "room" = some 5 ∧
    ["text", "room"].Sublist (chat.extendBy [chatRooms]).resolve.names ∧
    ∃ r added, ((chat.extendBy [chatRooms]).resolveWith .reject).outcome = .ok r ∧
      r.names = "text" :: added ∧ "topic" ∈ added ∧ "room" ∈ added := by
  have hkept : chat.survivors [chatRooms] =
      [{ index := 0, name := "text", type := "String[]" }] := by decide +kernel
  have hstand : standingAdd? (chat.extendBy [chatRooms]).operations "room" = some 5 := by decide
  have haccept : ((chat.extendBy [chatRooms]).resolveWith .reject).outcome =
      .ok (chat.extendBy [chatRooms]).resolve :=
    resolveWith_reject_eq_ok_iff.2 ⟨by decide, rfl⟩
  obtain ⟨-, hafter, hreject⟩ := survivors_keep_layout chat [chatRooms]
  obtain ⟨-, added, hnames, hmem, -⟩ := hreject _ haccept
  rw [hkept] at hafter hnames
  refine ⟨hkept, hstand, ?_, _, added, haccept, hnames, (hmem _).2 ?_, (hmem _).2 ?_⟩
  · exact hafter _ (List.mem_singleton_self _) ⟨3, "room", "Room*"⟩
      (mem_fields_iff.2 (by decide)) 5 hstand (by decide)
  · exact ⟨by decide, 4, by decide, by decide⟩
  · exact ⟨by decide, 5, by decide, by decide⟩

end Message

end WireSchema
