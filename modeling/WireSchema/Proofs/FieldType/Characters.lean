import WireSchema.Header.Member
import WireSchema.Proofs.Text.Characters
import WireSchema.Proofs.Text.Search
import WireSchema.Proofs.Text.Words

/-!
# The characters of a type

The spellings of a type are put together from parts of its text, from the names of scalars and from
a few characters of their own. So a property of characters that holds of these and of all
characters of the text holds of all characters of the spellings.

## Main definitions

* `FieldType.ownChars`: the characters that spellings add.

## Main results

* `FieldType.allChars_base`, `FieldType.allChars_pointer`, `FieldType.allChars_scalarSpelling`: the
  characters of the spellings of a type.
* `Header.allChars_memberType`: the characters of the type of a member.
-/

namespace WireSchema

namespace Text

/-! ### Parts of a text -/

theorem eraseFirst_subset (pat cs : List Char) : eraseFirst pat cs ⊆ cs := by
  obtain heq | ⟨before, after, hcs, heq⟩ := eraseFirst_eq_or pat cs
  · rw [heq]
    exact List.Subset.refl cs
  · rw [heq, hcs, List.append_assoc]
    exact List.append_subset.2
      ⟨List.subset_append_left _ _, List.Subset.trans (List.subset_append_right _ _)
        (List.subset_append_right _ _)⟩

theorem cutBracketed_subset {opener closer : Char} {cs before inner after : List Char}
    (h : cutBracketed opener closer cs = some (before, inner, after)) :
    before ⊆ cs ∧ inner ⊆ cs ∧ after ⊆ cs := by
  unfold cutBracketed at h
  split at h
  · cases h
  · rename_i c rest hrest
    dsimp only at h
    split_ifs at h
    split at h
    · cases h
    · rename_i d after' hafter
      cases h
      have hsub : rest ⊆ cs :=
        List.Subset.trans (List.subset_cons_self c rest)
          (hrest ▸ (List.dropWhile_sublist _).subset)
      have hafter : after ⊆ rest :=
        List.Subset.trans (List.subset_cons_self d after)
          (hafter ▸ (List.dropWhile_sublist _).subset)
      refine ⟨(List.takeWhile_sublist _).subset, ?_, List.Subset.trans hafter hsub⟩
      exact List.Subset.trans (List.takeWhile_sublist _).subset hsub

theorem mem_of_mem_normalize {cs : List Char} {c : Char} (h : c ∈ normalize cs) :
    c = ' ' ∨ c ∈ cs := by
  obtain h | ⟨w, hw, h⟩ := mem_intercalate h
  · exact .inl (List.mem_singleton.1 h)
  · exact .inr ((infix_of_mem_words hw).subset h)

theorem trim_subset (cs : List Char) : trim cs ⊆ cs := by
  intro c hc
  rw [trim, trimEnd, List.mem_reverse] at hc
  have hmem := (List.dropWhile_sublist _).subset hc
  rw [List.mem_reverse] at hmem
  exact (List.dropWhile_sublist _).subset hmem

end Text

open Text

theorem Matching.recognise_subset (matching : Matching) (cs : List Char) :
    (matching.recognise cs).2 ⊆ cs := by
  cases matching with
  | substring =>
    change (substringMatch cs).2 ⊆ cs
    unfold substringMatch
    split
    · exact eraseFirst_subset _ cs
    · exact List.Subset.refl cs
  | token =>
    change (tokenMatch cs).2 ⊆ cs
    unfold tokenMatch
    split
    · exact (List.dropWhile_sublist _).subset
    · exact List.Subset.refl cs

namespace FieldType

theorem splitParameter_subset (cs : List Char) :
    (splitParameter cs).2 ⊆ cs ∧ ∀ inner, (splitParameter cs).1 = some inner → inner ⊆ cs := by
  unfold splitParameter
  split
  · rename_i before inner after hcut
    obtain ⟨hbefore, hinner, hafter⟩ := cutBracketed_subset hcut
    refine ⟨List.append_subset.2 ⟨hbefore, hafter⟩, fun inner' h => ?_⟩
    split_ifs at h
    cases h
    exact hinner
  · exact ⟨List.Subset.refl cs, nofun⟩

/-- The characters that spellings may hold besides those of the text. -/
def ownChars : List Char :=
  [' ', '<', '>', pointerMark] ++ Scalar.all.flatMap (·.name.toList)

theorem mem_ownChars_of_mem_name {s : Scalar} {c : Char} (h : c ∈ s.name.toList) :
    c ∈ ownChars := by
  have hs : s ∈ Scalar.all := by cases s <;> decide
  exact List.mem_append_right _ (List.mem_flatMap.2 ⟨s, hs, h⟩)

section Spellings

variable {q : Char → Prop} (matching : Matching) {raw : String} (hown : ∀ c ∈ ownChars, q c)
  (hraw : AllChars q raw)

theorem allChars_stars (hown : ∀ c ∈ ownChars, q c) (n : Nat) : AllChars q (stars n) := by
  rw [stars, allChars_ofList_iff]
  intro c hc
  rw [List.eq_of_mem_replicate hc]
  exact hown _ (by decide)

include hraw

/-- The parts into which a text is taken hold only characters of the text. -/
theorem allChars_parts :
    AllChars q (read matching raw).stem ∧
      ∀ inner, (read matching raw).parameter = some inner → AllChars q inner := by
  obtain ⟨hrest, hinner⟩ := splitParameter_subset (matching.recognise raw.toList).2
  have hsub := matching.recognise_subset raw.toList
  constructor
  · simp only [read, allChars_ofList_iff]
    intro c hc
    have hmem := eraseFirst_subset _ _ (List.mem_filter.1 hc).1
    exact hraw c (hsub (hrest hmem))
  · intro inner h
    simp only [read] at h
    obtain ⟨cs, hcs, rfl⟩ := Option.map_eq_some_iff.1 h
    rw [allChars_ofList_iff]
    exact fun c hc => hraw c (hsub (hinner cs hcs hc))

include hown

theorem allChars_base : AllChars q (read matching raw).base := by
  obtain ⟨hstem, hparameter⟩ := allChars_parts matching hraw
  unfold base
  split
  · rename_i inner hinner
    have hopener : AllChars q "<" := by simpa [AllChars] using hown '<' (by decide)
    have hcloser : AllChars q ">" := by simpa [AllChars] using hown '>' (by decide)
    simp only [allChars_append_iff]
    exact ⟨⟨⟨hstem, hopener⟩, hparameter inner hinner⟩, hcloser⟩
  · exact fun c hc => hown c (mem_ownChars_of_mem_name hc)
  · rw [allChars_ofList_iff]
    exact fun c hc => hstem c (trim_subset _ hc)

/-- The characters of the base name with pointer marks after it. -/
theorem allChars_pointer (n : Nat) : AllChars q ((read matching raw).base ++ stars n) :=
  allChars_append_iff.2 ⟨allChars_base matching hown hraw, allChars_stars hown n⟩

theorem allChars_scalarSpelling : AllChars q (read matching raw).scalarSpelling := by
  rw [scalarSpelling, allChars_ofList_iff]
  intro c hc
  obtain rfl | hc := mem_of_mem_normalize hc
  · exact hown _ (by decide)
  · exact hraw c (eraseFirst_subset _ _ (List.mem_filter.1 hc).1)

end Spellings

end FieldType

/-- The characters of the type of a member. -/
theorem Header.allChars_memberType {q : Char → Prop} (matching : Matching) {raw : String}
    (hown : ∀ c ∈ FieldType.ownChars, q c) (hraw : AllChars q raw) :
    AllChars q (memberType (FieldType.read matching raw)) := by
  have hpointer := FieldType.allChars_pointer matching hown hraw
  have hstars := FieldType.allChars_stars hown
  have hscalar := FieldType.allChars_scalarSpelling matching hown hraw
  unfold memberType
  cases (FieldType.read matching raw).kind with
  | builtin =>
    refine allChars_append_iff.2 ⟨allChars_append_iff.2 ⟨hscalar, ?_⟩, hstars _⟩
    split_ifs
    · exact hstars 1
    · exact hstars 0
  | array => exact allChars_append_iff.2 ⟨hpointer _, hstars 1⟩
  | nested => exact hpointer _
  | pointer => exact hpointer _

end WireSchema
