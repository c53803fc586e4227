import WireSchema.Proofs.Contract.Unambiguous
import WireSchema.Proofs.Module.Phrases

/-!
# The phrases of emitted Rust routines are unambiguous

What the routines of a struct do with its fields can be told from their tokens. The phrases for a
field in the routines that read and write differ in one place, whatever the identifier and the type
of the field are. The two sizes that are added in the routine that measures stand between
parentheses, so that the first one ends where its parenthesis is closed. The routine that disposes
has no tokens for some fields. All other phrases in it mention their field in one place, so that
they can be told apart if no two fields have the same identifier.

## Main results

* `Module.unambiguous_phrasebook`: the phrases of a struct are unambiguous.
* `Module.actions_eq_of_takes`: the routines of a struct take no other actions than those that the
  kinds of its fields ask for.
-/

namespace WireSchema.Module

/-! ### Sizes -/

/-- Tokens that close what they open are determined by what stands before the next closing
bracket. -/
theorem Closed.eq_of_append_closer {ts ts' rest rest' : Tokens} (h : Closed ts) (h' : Closed ts')
    {d d' : Delimiter} (heq : ts ++ .closer d :: rest = ts' ++ .closer d' :: rest') : ts = ts' := by
  wlog hbegin : ts <+: ts' generalizing ts ts' rest rest' d d'
  · have hcommon : ts' <+: ts ++ .closer d :: rest := heq ▸ List.prefix_append ts' _
    have hor := List.prefix_or_prefix_of_prefix (List.prefix_append ts _) hcommon
    exact (this h' h heq.symm (hor.resolve_left hbegin)).symm
  obtain ⟨more, rfl⟩ := hbegin
  rw [List.append_assoc] at heq
  have hmore := List.append_cancel_left heq
  cases more with
  | nil => rw [List.append_nil]
  | cons t more =>
    -- the bracket that is closed first is open before the tokens
    obtain ⟨rfl, -⟩ := List.cons.inj hmore
    have hnone := h' []
    rw [h.openAfter_append] at hnone
    cases hnone

theorem apart_addTokens {size size' : Tokens} (h : Closed size) (h' : Closed size')
    (hne : size ≠ size') : Apart (addTokens size) (addTokens size') := by
  have hbegin : ∀ {ts ts' : Tokens}, Closed ts → Closed ts' → addTokens ts <+: addTokens ts' →
      ts = ts' := by
    rintro ts ts' hts hts' ⟨rest, hrest⟩
    simp only [addTokens, parens, delimited, List.append_assoc] at hrest
    have hinner := List.cons.inj (List.append_cancel_left hrest)
    simp only [List.append_eq, List.singleton_append] at hinner
    exact hts.eq_of_append_closer hts' hinner.2
  exact ⟨fun hadd => hne (hbegin h h' hadd), fun hadd => hne (hbegin h' h hadd).symm⟩

theorem fixedSize_ne_dynamicSize (runtime : Tokens) (f : Field) :
    fixedSize f ≠ dynamicSize runtime f := by
  have hfixed : (fixedSize f).getLast? = some (.word "u8") := by
    rw [fixedSize, List.getLast?_append]
    rfl
  have hdynamic : (dynamicSize runtime f).getLast? = some (.closer .paren) := by
    rw [dynamicSize, List.getLast?_append, parens, delimited, List.getLast?_append]
    rfl
  intro heq
  rw [heq, hdynamic] at hfixed
  cases hfixed

/-! ### Phrases for one field -/

variable (runtime : Tokens) (isMessage rollback : Bool)

section Apart

variable (f : Field)

theorem word_ne {s s' : String} (h : s ≠ s') : Token.word s ≠ .word s' :=
  fun heq => h (Token.word.inj heq)

theorem pairwise_lengths (hruntime : Closed runtime) (hvalue : Closed f.value.tokens) :
    ((phrasebook runtime isMessage rollback).length.phrases f).Pairwise fun p p' =>
      Apart p.1 p'.1 := by
  have hsizes : Apart (fixedLength f) (dynamicLength runtime f) :=
    apart_addTokens (closed_fixedSize hvalue) (closed_dynamicSize hruntime f)
      (fixedSize_ne_dynamicSize runtime f)
  simp [phrasebook, hsizes]

theorem pairwise_reads :
    ((phrasebook runtime isMessage rollback).read.phrases f).Pairwise fun p p' =>
      Apart p.1 p'.1 := by
  have hscalarItems : Apart (scalarRead runtime rollback f) (itemsRead runtime rollback f) := by
    simp only [scalarRead, itemsRead, braces, delimited, List.append_assoc, List.cons_append,
      apart_append_left_iff, apart_cons_iff]
    exact apart_of_getElem? 0 rfl rfl (word_ne (by decide))
  have hscalarPointer : Apart (scalarRead runtime rollback f) (pointerRead rollback f) :=
    apart_of_getElem? 0 rfl rfl (word_ne (by decide))
  have hscalarNested : Apart (scalarRead runtime rollback f) (nestedRead rollback f) :=
    apart_of_getElem? 1 rfl rfl (word_ne (by decide))
  have hitemsPointer : Apart (itemsRead runtime rollback f) (pointerRead rollback f) := by
    simp only [itemsRead, List.append_assoc]
    exact apart_of_getElem? 0 rfl rfl (word_ne (by decide))
  have hitemsNested : Apart (itemsRead runtime rollback f) (nestedRead rollback f) := by
    simp only [itemsRead, List.append_assoc]
    exact apart_of_getElem? 1 rfl rfl (word_ne (by decide))
  have hpointerNested : Apart (pointerRead rollback f) (nestedRead rollback f) :=
    apart_of_getElem? 0 rfl rfl (word_ne (by decide))
  simp [phrasebook, *]

theorem pairwise_writes :
    ((phrasebook runtime isMessage rollback).write.phrases f).Pairwise fun p p' =>
      Apart p.1 p'.1 := by
  have hscalarItems : Apart (scalarWrite runtime f) (itemsWrite runtime f) :=
    apart_of_getElem? 0 rfl rfl (word_ne (by decide))
  have hscalarPointer : Apart (scalarWrite runtime f) (pointerWrite f) :=
    apart_of_getElem? 0 rfl rfl (word_ne (by decide))
  have hscalarNested : Apart (scalarWrite runtime f) (nestedWrite f) :=
    apart_of_getElem? 0 rfl rfl (word_ne (by decide))
  have hitemsPointer : Apart (itemsWrite runtime f) (pointerWrite f) := by
    simp only [itemsWrite, pointerWrite, braces, parens, delimited, List.append_assoc,
      List.cons_append, apart_append_left_iff, apart_cons_iff]
    exact apart_of_getElem? 0 rfl rfl (word_ne (by decide))
  have hitemsNested : Apart (itemsWrite runtime f) (nestedWrite f) :=
    apart_of_getElem? 0 rfl rfl (word_ne (by decide))
  have hpointerNested : Apart (pointerWrite f) (nestedWrite f) :=
    apart_of_getElem? 0 rfl rfl (word_ne (by decide))
  simp [phrasebook, *]

/-- The end of a value and the disposal of items begin differently, whatever their fields are. -/
theorem apart_releases (g : Field) : Apart (valueRelease f) (itemsRelease g) :=
  apart_of_getElem? 0 rfl rfl (word_ne (by decide))

theorem pairwise_disposals :
    ((phrasebook runtime isMessage rollback).dispose.phrases f).Pairwise fun p p' =>
      Apart p.1 p'.1 ∨ p.1 = [] ∧ p'.1 ≠ [] := by
  have hne : valueRelease f ≠ [] ∧ itemsRelease f ≠ [] := ⟨nofun, nofun⟩
  simp [phrasebook, apart_releases, hne]

/-- What disposes of a field mentions it in one place. -/
theorem apart_of_mem_disposals {f g : Field} (h : f.ident ≠ g.ident) {p p' : Tokens × DisposeAction}
    (hp : p ∈ (phrasebook runtime isMessage rollback).dispose.phrases f)
    (hp' : p' ∈ (phrasebook runtime isMessage rollback).dispose.phrases g) (hne : p.1 ≠ [])
    (hne' : p'.1 ≠ []) : Apart p.1 p'.1 := by
  have hvalue : Apart (valueRelease f) (valueRelease g) :=
    apart_of_getElem? 2 rfl rfl (word_ne h)
  have hitems : Apart (itemsRelease f) (itemsRelease g) := by
    simp only [itemsRelease, List.append_assoc, apart_append_left_iff]
    exact apart_of_getElem? 2 rfl rfl (word_ne h)
  simp only [phrasebook, List.mem_cons, List.not_mem_nil, or_false] at hp hp'
  obtain rfl | rfl | rfl := hp
  · exact absurd rfl hne
  · obtain rfl | rfl | rfl := hp'
    · exact absurd rfl hne'
    · exact hvalue
    · exact apart_releases f g
  · obtain rfl | rfl | rfl := hp'
    · exact absurd rfl hne'
    · exact (apart_releases g f).symm
    · exact hitems

end Apart

/-! ### Phrases for all fields -/

variable {runtime}

/-- The phrases of the routines of a struct are unambiguous, if its fields have different
identifiers. -/
theorem unambiguous_phrasebook (hruntime : Closed runtime) {fields : List Field}
    (hvalues : ∀ f ∈ fields, Closed f.value.tokens) (h : (fields.map (·.ident)).Nodup) :
    (phrasebook runtime isMessage rollback).Unambiguous fields where
  length := .of_ne_nil
    (fun f _ => by simp [phrasebook, fixedLength, dynamicLength, addTokens, tokens])
    fun f hf => pairwise_lengths runtime isMessage rollback f hruntime (hvalues f hf)
  read := .of_ne_nil
    (fun f _ => by simp [phrasebook, scalarRead, itemsRead, pointerRead, nestedRead, tokens])
    fun f _ => pairwise_reads runtime isMessage rollback f
  write := .of_ne_nil
    (fun f _ => by
      simp [phrasebook, scalarWrite, scalarCall, itemsWrite, pointerWrite, nestedWrite, tokens])
    fun f _ => pairwise_writes runtime isMessage rollback f
  dispose := {
    own := fun f _ => pairwise_disposals runtime isMessage rollback f
    later := (List.pairwise_map.1 h).imp fun hident _ _ hp _ hp' hne hne' =>
      apart_of_mem_disposals runtime isMessage rollback hident hp hp' hne hne' }

/-- The routines of a struct take no other actions than those that the kinds of its fields ask
for. -/
theorem actions_eq_of_takes (hruntime : Closed runtime) {fields : List Field}
    (hvalues : ∀ f ∈ fields, Closed f.value.tokens) (h : (fields.map (·.ident)).Nodup)
    {actions : List FieldActions}
    (htakes : (phrasebook runtime isMessage rollback).Takes fields
      (routineBodies runtime isMessage rollback fields) actions) :
    actions = fields.map (·.plan.actions) :=
  htakes.actions_unique (unambiguous_phrasebook isMessage rollback hruntime hvalues h)
    (takes_routineBodies runtime isMessage rollback fields)

end WireSchema.Module
