import Mathlib.Data.List.Forall2
import Mathlib.Tactic.Common
import WireSchema.Log

/-!
# The outcomes of logged runs

The outcome of a run that consists of smaller runs is the outcome of the same computation without
its log. With these rules a run in `Logged` is reduced to one in `Except`, where two runs over
lists are compared item by item.

## Main results

* `Logged.outcome_bind`: the outcome of one run after another.
* `map_mapM`, `mapM_congr`: runs over lists.
* `bind_eq_ok_iff`, `mapM_eq_ok_iff`: runs that end without an error.
* `mapM_eq_error_iff`: runs that end with an error.
-/

namespace WireSchema

variable {ε ε' α β γ : Type}

namespace Logged

@[simp] theorem outcome_pure (a : α) : (Pure.pure a : Logged ε α).outcome = .ok a := rfl

@[simp] theorem outcome_bind (x : Logged ε α) (f : α → Logged ε β) :
    (x >>= f).outcome = x.outcome >>= fun a => (f a).outcome := by
  obtain ⟨log, outcome⟩ := x
  cases outcome <;> rfl

@[simp] theorem outcome_ofExcept (x : Except ε α) : (ofExcept x).outcome = x := rfl

@[simp] theorem outcome_mapError (f : ε → ε') (x : Logged ε α) :
    (x.mapError f).outcome = x.outcome.mapError f := rfl

end Logged

/-! ### Runs over lists -/

/-- A map over the results of a run over a list is part of the run of every item. -/
theorem map_mapM (run : α → Except ε β) (g : β → γ) (l : List α) :
    List.map g <$> l.mapM run = l.mapM fun a => g <$> run a := by
  induction l with
  | nil => rfl
  | cons a l ih =>
    rw [List.mapM_cons, List.mapM_cons, ← ih]
    cases run a with
    | error e => rfl
    | ok b => cases l.mapM run <;> rfl

theorem mapM_congr {run run' : α → Except ε β} {l : List α} (h : ∀ a ∈ l, run a = run' a) :
    l.mapM run = l.mapM run' := by
  induction l with
  | nil => rfl
  | cons a l ih =>
    rw [List.mapM_cons, List.mapM_cons, h a List.mem_cons_self,
      ih fun b hb => h b (List.mem_cons_of_mem a hb)]

/-- Lists whose items correspond have the same images under maps that agree on such items. -/
theorem map_eq_map_of_forall₂ {r : α → β → Prop} {f : α → γ} {g : β → γ} {l : List α}
    {l' : List β} (h : List.Forall₂ r l l') (hr : ∀ a b, r a b → f a = g b) :
    l.map f = l'.map g := by
  induction h with
  | nil => rfl
  | cons hab _ ih => rw [List.map_cons, List.map_cons, hr _ _ hab, ih]

/-! ### Runs that end without an error -/

theorem bind_eq_ok_iff {x : Except ε α} {f : α → Except ε β} {b : β} :
    x >>= f = .ok b ↔ ∃ a, x = .ok a ∧ f a = .ok b := by
  cases x with
  | error e => exact ⟨nofun, nofun⟩
  | ok a => exact ⟨fun h => ⟨a, rfl, h⟩, fun ⟨_, ha, h⟩ => Except.ok.inj ha ▸ h⟩

theorem map_eq_ok_iff {x : Except ε α} {g : α → β} {b : β} :
    g <$> x = .ok b ↔ ∃ a, x = .ok a ∧ g a = b := by
  cases x with
  | error e => exact ⟨nofun, nofun⟩
  | ok a => exact ⟨fun h => ⟨a, rfl, Except.ok.inj h⟩, fun ⟨_, ha, h⟩ => by cases ha; exact h ▸ rfl⟩

/-- A run over a list ends without an error if the run of every item does. -/
theorem mapM_eq_ok_iff {run : α → Except ε β} {l : List α} {bs : List β} :
    l.mapM run = .ok bs ↔ List.Forall₂ (fun a b => run a = .ok b) l bs := by
  induction l generalizing bs with
  | nil =>
    rw [List.forall₂_nil_left_iff]
    exact ⟨fun h => (Except.ok.inj h).symm, fun h => h ▸ rfl⟩
  | cons a l ih =>
    simp only [List.mapM_cons, bind_eq_ok_iff, ih, List.forall₂_cons_left_iff]
    constructor
    · rintro ⟨b, hb, bs', hbs', h⟩
      exact ⟨b, bs', hb, hbs', (Except.ok.inj h).symm⟩
    · rintro ⟨b, bs', hb, hbs', rfl⟩
      exact ⟨b, hb, bs', hbs', rfl⟩

theorem mapM_append_eq_ok_iff {run : α → Except ε β} {l l' : List α} {bs : List β} :
    (l ++ l').mapM run = .ok bs ↔
      ∃ bs₁ bs₂, l.mapM run = .ok bs₁ ∧ l'.mapM run = .ok bs₂ ∧ bs = bs₁ ++ bs₂ := by
  simp only [List.mapM_append, bind_eq_ok_iff]
  constructor
  · rintro ⟨bs₁, h₁, bs₂, h₂, h⟩
    exact ⟨bs₁, bs₂, h₁, h₂, (Except.ok.inj h).symm⟩
  · rintro ⟨bs₁, bs₂, h₁, h₂, rfl⟩
    exact ⟨bs₁, h₁, bs₂, h₂, rfl⟩

theorem exists_mapM_eq_ok {run : α → Except ε β} {l : List α} (h : ∀ a ∈ l, ∃ b, run a = .ok b) :
    ∃ bs, l.mapM run = .ok bs := by
  induction l with
  | nil => exact ⟨[], rfl⟩
  | cons a l ih =>
    obtain ⟨b, hb⟩ := h a List.mem_cons_self
    obtain ⟨bs, hbs⟩ := ih fun c hc => h c (List.mem_cons_of_mem a hc)
    exact ⟨b :: bs, by rw [List.mapM_cons, hb, hbs]; rfl⟩

theorem exists_of_mem_left_of_mapM {run : α → Except ε β} {l : List α} {bs : List β} {a : α}
    (h : l.mapM run = .ok bs) (ha : a ∈ l) : ∃ b, run a = .ok b := by
  rw [mapM_eq_ok_iff] at h
  induction h with
  | nil => cases ha
  | @cons c b l bs hrun _ ih =>
    rcases List.mem_cons.1 ha with rfl | ha
    · exact ⟨b, hrun⟩
    · exact ih ha

/-- The results of a run over a list come from its items. -/
theorem exists_of_mem_of_mapM {run : α → Except ε β} {l : List α} {bs : List β} {b : β}
    (h : l.mapM run = .ok bs) (hb : b ∈ bs) : ∃ a ∈ l, run a = .ok b := by
  rw [mapM_eq_ok_iff] at h
  induction h with
  | nil => cases hb
  | @cons a c l bs hrun _ ih =>
    rcases List.mem_cons.1 hb with rfl | hb
    · exact ⟨a, List.mem_cons_self, hrun⟩
    · obtain ⟨a', ha', hrun'⟩ := ih hb
      exact ⟨a', List.mem_cons_of_mem a ha', hrun'⟩

/-! ### Runs that end with an error -/

theorem map_eq_error_iff {x : Except ε α} {g : α → β} {e : ε} :
    g <$> x = .error e ↔ x = .error e := by
  cases x with
  | error e' => exact ⟨fun h => Except.error.inj h ▸ rfl, fun h => Except.error.inj h ▸ rfl⟩
  | ok a => exact ⟨nofun, nofun⟩

/-- A run over a list ends with the error of the first item whose run does not succeed. -/
theorem mapM_eq_error_iff {run : α → Except ε β} {l : List α} {e : ε} :
    l.mapM run = .error e ↔
      ∃ before a after, l = before ++ a :: after ∧ (∀ a' ∈ before, ∃ b, run a' = .ok b) ∧
        run a = .error e := by
  induction l with
  | nil => exact ⟨nofun, fun ⟨before, _, _, h, _⟩ => by simp at h⟩
  | cons c l ih =>
    cases hc : run c with
    | error e' =>
      have hrun : (c :: l).mapM run = .error e' := by rw [List.mapM_cons, hc]; rfl
      rw [hrun, Except.error.injEq]
      constructor
      · rintro rfl
        exact ⟨[], c, l, rfl, by simp, hc⟩
      · rintro ⟨before, a, after, hsplit, hbefore, ha⟩
        cases before with
        | nil =>
          obtain ⟨rfl, -⟩ := List.cons.inj hsplit
          exact Except.error.inj (hc.symm.trans ha)
        | cons c' before =>
          obtain ⟨rfl, -⟩ := List.cons.inj hsplit
          obtain ⟨b, hb⟩ := hbefore c List.mem_cons_self
          simp [hc] at hb
    | ok b =>
      have hrun : (c :: l).mapM run = (b :: ·) <$> l.mapM run := by
        rw [List.mapM_cons, hc]
        rfl
      rw [hrun, map_eq_error_iff, ih]
      constructor
      · rintro ⟨before, a, after, rfl, hbefore, ha⟩
        exact ⟨c :: before, a, after, rfl, List.forall_mem_cons.2 ⟨⟨b, hc⟩, hbefore⟩, ha⟩
      · rintro ⟨before, a, after, hsplit, hbefore, ha⟩
        cases before with
        | nil =>
          obtain ⟨rfl, -⟩ := List.cons.inj hsplit
          simp [hc] at ha
        | cons c' before =>
          obtain ⟨rfl, rfl⟩ := List.cons.inj hsplit
          exact ⟨before, a, after, rfl, fun a' ha' => hbefore a' (List.mem_cons_of_mem _ ha'), ha⟩

end WireSchema
