/-!
# Maps from tags

A map from message tags keeps its entries in ascending order of their tags, with one entry for each
tag. A plan uses one map to find the latest message that has taken a tag, and another one to count
the messages that have it.

## Main definitions

* `TagMap`: the entries of a map, in order.
* `TagMap.get?`, `TagMap.update`, `TagMap.insert`: the value of a tag, and setting it.

## Main results

* `TagMap.get?_update`: an update sets the value of its tag and leaves the others alone.
* `TagMap.mem_entries_iff`: the entries are the tags with their values.
-/

namespace WireSchema

/-- Set the value of a tag among ascending entries, in terms of its former value. -/
def updateEntries {α : Type} (tag : UInt8) (f : Option α → α) :
    List (UInt8 × α) → List (UInt8 × α)
  | [] => [(tag, f none)]
  | (key, value) :: entries =>
    if tag < key then (tag, f none) :: (key, value) :: entries
    else if tag = key then (key, f (some value)) :: entries
    else (key, value) :: updateEntries tag f entries

/-- A key of updated entries was there before or is the tag. -/
theorem key_of_mem_updateEntries {α : Type} {tag : UInt8} {f : Option α → α}
    {entries : List (UInt8 × α)} {e : UInt8 × α} (h : e ∈ updateEntries tag f entries) :
    e.1 = tag ∨ ∃ e' ∈ entries, e.1 = e'.1 := by
  induction entries with
  | nil => simp_all [updateEntries]
  | cons entry entries ih =>
    unfold updateEntries at h
    split at h
    · rcases List.mem_cons.1 h with rfl | h
      · exact .inl rfl
      · exact .inr ⟨e, h, rfl⟩
    · split at h <;> rcases List.mem_cons.1 h with rfl | h
      · exact .inr ⟨entry, List.mem_cons_self, rfl⟩
      · exact .inr ⟨e, List.mem_cons_of_mem _ h, rfl⟩
      · exact .inr ⟨_, List.mem_cons_self, rfl⟩
      · rcases ih h with htag | ⟨e', he', heq⟩
        · exact .inl htag
        · exact .inr ⟨e', List.mem_cons_of_mem _ he', heq⟩

theorem pairwise_updateEntries {α : Type} (tag : UInt8) (f : Option α → α)
    {entries : List (UInt8 × α)} (h : entries.Pairwise (·.1 < ·.1)) :
    (updateEntries tag f entries).Pairwise (·.1 < ·.1) := by
  induction entries with
  | nil => exact List.pairwise_singleton _ _
  | cons entry entries ih =>
    obtain ⟨hfirst, hrest⟩ := List.pairwise_cons.1 h
    unfold updateEntries
    split
    · rename_i hlt
      refine List.pairwise_cons.2 ⟨fun e he => ?_, h⟩
      rcases List.mem_cons.1 he with rfl | he
      · exact hlt
      · exact UInt8.lt_trans hlt (hfirst e he)
    · rename_i hnot
      split
      · exact List.pairwise_cons.2 ⟨hfirst, hrest⟩
      · rename_i hne
        refine List.pairwise_cons.2 ⟨fun e he => ?_, ih hrest⟩
        rcases key_of_mem_updateEntries he with htag | ⟨e', he', heq⟩
        · rw [htag]
          exact UInt8.lt_of_le_of_ne (UInt8.not_lt.1 hnot) (Ne.symm hne)
        · rw [heq]
          exact hfirst e' he'

/-- A map from tags, with its entries in ascending order. -/
structure TagMap (α : Type) where
  entries : List (UInt8 × α)
  ascending : entries.Pairwise (·.1 < ·.1)

namespace TagMap

variable {α : Type}

/-- The map without entries. -/
def empty : TagMap α :=
  ⟨[], .nil⟩

/-- The value of a tag. -/
def get? (t : TagMap α) (tag : UInt8) : Option α :=
  t.entries.lookup tag

/-- Set the value of a tag in terms of its former value. -/
def update (t : TagMap α) (tag : UInt8) (f : Option α → α) : TagMap α :=
  ⟨updateEntries tag f t.entries, pairwise_updateEntries tag f t.ascending⟩

/-- Set the value of a tag, and give its former value. -/
def insert (t : TagMap α) (tag : UInt8) (value : α) : Option α × TagMap α :=
  (t.get? tag, t.update tag fun _ => value)

@[simp]
theorem get?_empty (tag : UInt8) : (empty : TagMap α).get? tag = none := rfl

theorem lookup_cons_entry (tag : UInt8) (entry : UInt8 × α) (entries : List (UInt8 × α)) :
    (entry :: entries).lookup tag =
      if tag = entry.1 then some entry.2 else entries.lookup tag := by
  rw [List.lookup_cons]
  by_cases h : tag = entry.1
  · rw [if_pos h, show (tag == entry.1) = true by simpa using h]
  · rw [if_neg h, show (tag == entry.1) = false by simpa using h]

theorem lookup_updateEntries (tag other : UInt8) (f : Option α → α)
    {entries : List (UInt8 × α)} (h : entries.Pairwise (·.1 < ·.1)) :
    (updateEntries tag f entries).lookup other =
      if other = tag then some (f (entries.lookup tag)) else entries.lookup other := by
  induction entries with
  | nil => rw [updateEntries, lookup_cons_entry, List.lookup_nil, List.lookup_nil]
  | cons entry entries ih =>
    obtain ⟨hfirst, hrest⟩ := List.pairwise_cons.1 h
    unfold updateEntries
    split
    · -- all keys are above the tag, so it has no value yet
      rename_i hlt
      have hnone : (entry :: entries).lookup tag = none := by
        refine List.lookup_eq_none_iff.2 fun e he => ?_
        have htag : tag < e.1 := by
          rcases List.mem_cons.1 he with rfl | he
          · exact hlt
          · exact UInt8.lt_trans hlt (hfirst e he)
        simpa using UInt8.ne_of_lt htag
      rw [lookup_cons_entry, hnone]
    · split
      · rename_i heq
        subst heq
        simp only [lookup_cons_entry]
        split <;> rfl
      · rename_i hne
        simp only [lookup_cons_entry, ih hrest, if_neg hne]
        split
        · rename_i hother
          rw [if_neg (fun htag => hne (htag.symm.trans hother))]
        · rfl

theorem get?_update (t : TagMap α) (tag other : UInt8) (f : Option α → α) :
    (t.update tag f).get? other = if other = tag then some (f (t.get? tag)) else t.get? other :=
  lookup_updateEntries tag other f t.ascending

theorem mem_entries_iff (t : TagMap α) (tag : UInt8) (value : α) :
    (tag, value) ∈ t.entries ↔ t.get? tag = some value := by
  obtain ⟨entries, h⟩ := t
  change _ ↔ entries.lookup tag = some value
  induction entries with
  | nil => simp
  | cons entry entries ih =>
    obtain ⟨hfirst, hrest⟩ := List.pairwise_cons.1 h
    rw [lookup_cons_entry, List.mem_cons]
    split
    · -- the entries after the first one have greater tags
      rename_i htag
      have hnot : (tag, value) ∉ entries := fun hmem =>
        UInt8.ne_of_lt (hfirst _ hmem) htag.symm
      rw [or_iff_left hnot, Prod.ext_iff, Option.some.injEq, and_iff_right htag, eq_comm]
    · rename_i htag
      simp [Prod.ext_iff, htag, ih hrest]

end TagMap

end WireSchema
