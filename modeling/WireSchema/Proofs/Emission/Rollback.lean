import WireSchema.Module.Standard
import WireSchema.Proofs.Header.Rollback
import WireSchema.Proofs.Module.Rollback

/-!
# Rollback in both languages

The setting for rollback is looked at only when the failed ends of the routines that read are
written. The plan of a schema does not depend on it, and what is emitted from the plan depends on it
in those routines alone, where each failed end is preceded by a disposal or not.

## Main definitions

* `Settings.withRollback`: settings with rollback or without it.

## Main results

* `Plan.make_withRollback`: the plan does not depend on rollback.
* `rollback_at_exits_only`: what rollback changes in both languages.
-/

namespace WireSchema

/-- The settings with rollback or without it. -/
def Settings.withRollback (s : Settings) (rollback : Bool) : Settings :=
  { s with generate := { s.generate with rollback } }

theorem planMessages_withRollback (s : Settings) (rollback : Bool) (seen : TagMap String)
    (ms : List Message) :
    planMessages (s.withRollback rollback).generate seen ms =
      planMessages s.generate seen ms := by
  induction ms generalizing seen with
  | nil => rfl
  | cons m ms ih =>
    simp only [planMessages, ih]
    rfl

/-- The plan of a schema does not depend on rollback. -/
theorem Plan.make_withRollback (d : Definitions) (s : Settings) (rollback : Bool) :
    make d (s.withRollback rollback).generate = make d s.generate := by
  rw [make, make, planMessages_withRollback]
  rfl

namespace Module

/-- A module is fixed but for the routines that read, one for each object and each message, unless
the plan cannot be emitted. -/
theorem hasHoles_items (g : Grammar) (s : Settings) (p : Plan) :
    (∃ e, ∀ rollback, items g (s.withRollback rollback) p = .error e) ∨
      ∃ runtime fields write,
        fields.map (·.map (·.plan)) = p.objects.map (·.fields) ++ p.messages.map (·.fields) ∧
        (∀ rollback, items g (s.withRollback rollback) p = .ok (write rollback)) ∧
        HasHoles (readTokens runtime) fields write := by
  have hitems : ∀ rollback, items g (s.withRollback rollback) p =
      Parts.tokens rollback <$> Parts.make g s.module p :=
    fun rollback => items_eq_map g (s.withRollback rollback) p
  cases hparts : Parts.make g s.module p with
  | error e => exact .inl ⟨e, fun rollback => by rw [hitems, hparts]; rfl⟩
  | ok x =>
    refine .inr ⟨x.runtime, x.fields, fun rollback => x.tokens rollback, Parts.plans_of_make hparts,
      fun rollback => by rw [hitems, hparts]; rfl, ?_⟩
    exact hasHoles_fileItems x.runtime x.objects x.messages x.factories

end Module

/-- **Rollback changes the failed ends and nothing else.** The plan does not depend on it. A header
is fixed but for the routines that read. In the text of such a routine, for fields without line
breaks, each line `return false;` comes directly after a line `this->dispose();` of the same
indentation with rollback, and without these lines the text is that of the routine without rollback.
A module cannot be emitted in either case, or is fixed but for the routines that read. The tokens of
such a routine with rollback have `self.dispose();` directly before each `return false;` of the
routine without it. -/
theorem rollback_at_exits_only (g : Module.Grammar) (s : Settings) :
    (∀ d rollback, Plan.make d (s.withRollback rollback).generate = Plan.make d s.generate) ∧
      (∀ p, HasHoles Header.readLines (p.objects.map (·.fields) ++ p.messages.map (·.fields))
        fun rollback => Header.lines s.header rollback p) ∧
      (∀ fields, (∀ f ∈ fields, PlannedField.OneLine f) →
        Header.DisposesAtExits
          (Header.textLines (Header.renderLines (Header.readLines true fields)))
          (Header.textLines (Header.renderLines (Header.readLines false fields)))) ∧
      (∀ p, (∃ e, ∀ rollback, Module.items g (s.withRollback rollback) p = .error e) ∨
        ∃ runtime fields write,
          fields.map (·.map (·.plan)) = p.objects.map (·.fields) ++ p.messages.map (·.fields) ∧
          (∀ rollback, Module.items g (s.withRollback rollback) p = .ok (write rollback)) ∧
          HasHoles (Module.readTokens runtime) fields write) ∧
      ∀ runtime fields, ∃ segments : List Module.Tokens,
        segments.length = (Module.deserializeRoutine runtime false fields).body.exits + 1 ∧
        Module.readTokens runtime false fields = Module.exitTokens.intercalate segments ∧
        Module.readTokens runtime true fields =
          (Module.disposalTokens ++ Module.exitTokens).intercalate segments :=
  ⟨fun d => Plan.make_withRollback d s, Header.hasHoles_lines s.header,
    fun _ h => Header.disposesAtExits_deserialize h Header.memberDepth, Module.hasHoles_items g s,
    fun runtime fields => (Module.insertsDisposal_deserialize runtime fields).exists_segments⟩

/-- An array of pointers and a scalar. -/
def crewFields : List PlannedField :=
  [.make .token "crew" 0 "Sailor[]*", .make .token "rank" 1 "int"]

theorem oneLine_crewFields : ∀ f ∈ crewFields, f.OneLine := by
  rw [crewFields, List.forall_mem_cons, List.forall_mem_singleton]
  exact ⟨PlannedField.oneLine_make .token 0 (by decide) (by decide),
    PlannedField.oneLine_make .token 1 (by decide) (by decide)⟩

/-- The routine that reads `crewFields` has three failed ends. -/
theorem rollback_at_exits_only_crewFields :
    (∀ f ∈ crewFields, f.OneLine) ∧
      Header.DisposesAtExits
        (Header.textLines (Header.renderLines (Header.readLines true crewFields)))
        (Header.textLines (Header.renderLines (Header.readLines false crewFields))) ∧
      (Header.readLines true crewFields).countP (·.text = Header.disposalText) = 3 := by
  obtain ⟨-, -, hheader, -⟩ := rollback_at_exits_only Module.standardGrammar {}
  exact ⟨oneLine_crewFields, hheader crewFields oneLine_crewFields, by decide +kernel⟩

end WireSchema
