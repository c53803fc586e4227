import Mathlib.Data.List.Pairwise
import WireSchema.Proofs.Contract.Basic

/-!
# Unambiguous phrases

The body of a routine is written with one phrase for each field, and a book says for which action
each phrase stands. The actions are determined by the body if no phrase can be taken for another
one. This is so if no phrase for a field begins another phrase for it. Where a field can have an
empty phrase, its other phrases must not be found in front of those for later fields either.

## Main definitions

* `Apart`: neither of two pieces of code begins the other one.
* `Unambiguous`, `Phrasebook.Unambiguous`: no phrase can be taken for another one.

## Main results

* `Spells.actions_unique`: code stands for one list of actions only.
* `Phrasebook.Takes.actions_unique`: the routines of a type take one list of actions only.
-/

namespace WireSchema

variable {φ σ α : Type}

/-- Neither of two pieces of code begins the other one. -/
def Apart (code code' : List σ) : Prop :=
  ¬ code <+: code' ∧ ¬ code' <+: code

theorem Apart.symm {code code' : List σ} (h : Apart code code') : Apart code' code :=
  ⟨h.2, h.1⟩

theorem not_prefix_of_getElem? {code code' : List σ} {a a' : σ} {i : Nat} (h : code[i]? = some a)
    (h' : code'[i]? = some a') (hne : a ≠ a') : ¬ code <+: code' := by
  rintro ⟨rest, rfl⟩
  obtain ⟨hi, -⟩ := List.getElem?_eq_some_iff.1 h
  rw [List.getElem?_append_left hi, h] at h'
  exact hne (Option.some.inj h')

/-- Pieces of code that differ in one place. -/
theorem apart_of_getElem? {code code' : List σ} {a a' : σ} (i : Nat) (h : code[i]? = some a)
    (h' : code'[i]? = some a') (hne : a ≠ a') : Apart code code' :=
  ⟨not_prefix_of_getElem? h h' hne, not_prefix_of_getElem? h' h hne.symm⟩

@[simp]
theorem apart_append_left_iff {common code code' : List σ} :
    Apart (common ++ code) (common ++ code') ↔ Apart code code' := by
  simp only [Apart, List.prefix_append_right_inj]

@[simp]
theorem apart_cons_iff {a : σ} {code code' : List σ} :
    Apart (a :: code) (a :: code') ↔ Apart code code' := by
  simp only [Apart, List.prefix_cons_inj]

/-- No phrase can be taken for another one. Only an empty phrase begins other phrases for its field,
and a field that can have an empty phrase has no other phrase that begins a phrase for a later
field, or begins with one. -/
structure Unambiguous (book : φ → List (List σ × α)) (fields : List φ) : Prop where
  own : ∀ f ∈ fields, (book f).Pairwise fun p p' => Apart p.1 p'.1 ∨ p.1 = [] ∧ p'.1 ≠ []
  later : fields.Pairwise fun f g => (∃ p ∈ book f, p.1 = []) →
    ∀ p ∈ book f, ∀ p' ∈ book g, p.1 ≠ [] → p'.1 ≠ [] → Apart p.1 p'.1

variable {book : φ → List (List σ × α)} {fields : List φ}

/-- Phrases that are not empty have to be told apart for each field only. -/
theorem Unambiguous.of_ne_nil (hne : ∀ f ∈ fields, ∀ p ∈ book f, p.1 ≠ [])
    (hown : ∀ f ∈ fields, (book f).Pairwise fun p p' => Apart p.1 p'.1) :
    Unambiguous book fields where
  own f hf := (hown f hf).imp .inl
  later := by
    refine List.Pairwise.imp_of_mem (R := fun _ _ => True) ?_
      (List.pairwise_of_forall fun _ _ => trivial)
    rintro f g hf - - ⟨p, hp, hempty⟩
    exact absurd hempty (hne f hf p hp)

theorem Unambiguous.eq_or_nil {f : φ} (h : Unambiguous book (f :: fields)) {p p' : List σ × α}
    (hp : p ∈ book f) (hp' : p' ∈ book f) (hbegin : p.1 <+: p'.1) :
    p = p' ∨ p.1 = [] ∧ p'.1 ≠ [] := by
  by_contra hnot
  rw [not_or] at hnot
  obtain ⟨hne, hnil⟩ := hnot
  have : Std.Symm fun p p' : List σ × α =>
      Apart p.1 p'.1 ∨ p.1 = [] ∧ p'.1 ≠ [] ∨ p'.1 = [] ∧ p.1 ≠ [] :=
    ⟨fun p p' => by rintro (h | h | h); exacts [.inl h.symm, .inr (.inr h), .inr (.inl h)]⟩
  have hpairs := (h.own f List.mem_cons_self).imp
    (S := fun p p' => Apart p.1 p'.1 ∨ p.1 = [] ∧ p'.1 ≠ [] ∨ p'.1 = [] ∧ p.1 ≠ [])
    fun hapart => hapart.imp_right .inl
  obtain hapart | hempty | ⟨hempty, hcode⟩ := hpairs.forall hp hp' hne
  · exact hapart.1 hbegin
  · exact hnil hempty
  · rw [hempty, List.prefix_nil] at hbegin
    exact hcode hbegin

theorem Unambiguous.tail {f : φ} (h : Unambiguous book (f :: fields)) : Unambiguous book fields :=
  ⟨fun g hg => h.own g (List.mem_cons_of_mem f hg), h.later.tail⟩

/-- Code that is not empty begins with a phrase for one of its fields. -/
theorem Spells.exists_phrase {code : List σ} {actions : List α}
    (h : Spells book fields code actions) (hcode : code ≠ []) :
    ∃ f ∈ fields, ∃ p ∈ book f, p.1 ≠ [] ∧ p.1 <+: code := by
  induction h with
  | nil => exact absurd rfl hcode
  | @cons f fields phrase code a actions hphrase hrest ih =>
    by_cases hempty : phrase = []
    · subst hempty
      obtain ⟨g, hg, p, hp, hne, hbegin⟩ := ih hcode
      exact ⟨g, List.mem_cons_of_mem f hg, p, hp, hne, hbegin⟩
    · exact ⟨f, List.mem_cons_self, _, hphrase, hempty, List.prefix_append _ _⟩

/-- Code cannot begin with a phrase for a field and be spelled by the fields after it alone. -/
theorem Unambiguous.not_spells {f : φ} (h : Unambiguous book (f :: fields)) {p : List σ × α}
    {code : List σ} {actions : List α} (hp : p ∈ book f) (hne : p.1 ≠ [])
    (hempty : ∃ p' ∈ book f, p'.1 = []) : ¬ Spells book fields (p.1 ++ code) actions := by
  intro hspells
  obtain ⟨g, hg, p', hp', hne', hbegin⟩ := hspells.exists_phrase (by simp [hne])
  have hapart := (List.pairwise_cons.1 h.later).1 g hg hempty p hp p' hp' hne hne'
  obtain hbegin | hbegin := List.prefix_or_prefix_of_prefix (List.prefix_append p.1 code) hbegin
  · exact hapart.1 hbegin
  · exact hapart.2 hbegin

/-- The first phrase of code for fields is determined by the code. -/
theorem Unambiguous.eq_of_append_eq {f : φ} (h : Unambiguous book (f :: fields))
    {p p' : List σ × α} (hp : p ∈ book f) (hp' : p' ∈ book f) {code code' : List σ}
    {actions actions' : List α} (hcode : Spells book fields code actions)
    (hcode' : Spells book fields code' actions') (heq : p.1 ++ code = p'.1 ++ code') : p = p' := by
  wlog hbegin : p.1 <+: p'.1 generalizing p p' code code' actions actions'
  · have hcommon : p'.1 <+: p.1 ++ code := heq ▸ List.prefix_append p'.1 code'
    have hor := List.prefix_or_prefix_of_prefix (List.prefix_append p.1 code) hcommon
    exact (this hp' hp hcode' hcode heq.symm (hor.resolve_left hbegin)).symm
  obtain rfl | ⟨hempty, hne⟩ := h.eq_or_nil hp hp' hbegin
  · rfl
  · rw [hempty, List.nil_append] at heq
    exact absurd (heq ▸ hcode) (h.not_spells hp' hne ⟨p, hp, hempty⟩)

/-- **The actions are read off the code.** By unambiguous phrases code stands for one list of
actions only. -/
theorem Spells.actions_unique {code : List σ} {actions actions' : List α}
    (hbook : Unambiguous book fields) (h : Spells book fields code actions)
    (h' : Spells book fields code actions') : actions = actions' := by
  induction h generalizing actions' with
  | nil => cases h'; rfl
  | @cons f fields phrase code a actions hphrase hrest ih =>
    generalize hwhole : phrase ++ code = whole at h'
    cases h' with
    | cons hphrase' hrest' =>
      obtain ⟨rfl, rfl⟩ :=
        Prod.mk.inj (hbook.eq_of_append_eq hphrase hphrase' hrest hrest' hwhole)
      obtain rfl := List.append_cancel_left hwhole
      rw [ih hbook.tail hrest']

theorem Chapter.Takes.actions_unique {c : Chapter φ σ α} (hbook : Unambiguous c.phrases fields)
    {body : List σ} {actions actions' : List α} (h : c.Takes fields body actions)
    (h' : c.Takes fields body actions') : actions = actions' := by
  obtain ⟨code, rfl, hcode⟩ := h
  obtain ⟨code', heq, hcode'⟩ := h'
  obtain rfl := List.append_cancel_left (List.append_cancel_right heq)
  exact hcode.actions_unique hbook hcode'

/-- No phrase of the four routines can be taken for another one. -/
structure Phrasebook.Unambiguous (b : Phrasebook φ σ) (fields : List φ) : Prop where
  length : WireSchema.Unambiguous b.length.phrases fields
  read : WireSchema.Unambiguous b.read.phrases fields
  write : WireSchema.Unambiguous b.write.phrases fields
  dispose : WireSchema.Unambiguous b.dispose.phrases fields

theorem FieldActions.eq_of_map_eq : {actions actions' : List FieldActions} →
    actions.map (·.length) = actions'.map (·.length) →
    actions.map (·.read) = actions'.map (·.read) →
    actions.map (·.write) = actions'.map (·.write) →
    actions.map (·.dispose) = actions'.map (·.dispose) → actions = actions'
  | [], [], _, _, _, _ => rfl
  | a :: actions, a' :: actions', hlength, hread, hwrite, hdispose => by
    rw [List.map_cons, List.map_cons, List.cons.injEq] at hlength hread hwrite hdispose
    have ha : a = a' := by
      cases a
      simp_all
    rw [ha, eq_of_map_eq hlength.2 hread.2 hwrite.2 hdispose.2]

/-- The routines of a type take one list of actions only. -/
theorem Phrasebook.Takes.actions_unique {b : Phrasebook φ σ} (hbook : b.Unambiguous fields)
    {bodies : Bodies σ} {actions actions' : List FieldActions}
    (h : b.Takes fields bodies actions) (h' : b.Takes fields bodies actions') :
    actions = actions' :=
  FieldActions.eq_of_map_eq (h.length.actions_unique hbook.length h'.length)
    (h.read.actions_unique hbook.read h'.read) (h.write.actions_unique hbook.write h'.write)
    (h.dispose.actions_unique hbook.dispose h'.dispose)

end WireSchema
