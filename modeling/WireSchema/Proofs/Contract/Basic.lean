import Mathlib.Tactic.Common
import WireSchema.Plan

/-!
# Wire contracts

The contract of a type says under which name and with which tag and version it is known, and what
each of its four routines does with each of its fields. A backend renders a plan if it emits the
contracts of the plan's types in order. What a routine does is read off its code: a book of phrases
says which code stands for which action with a field, and the body of a routine takes the actions
that its phrases stand for.

## Main definitions

* `LengthAction`, `ReadAction`, `WriteAction`, `DisposeAction`, `FieldActions`: what the four
  routines do with a field.
* `PlannedField.actions`: the actions that the kind of a field asks for.
* `WireType`, `Plan.contracts`: the types of a plan.
* `Spells`: code with one phrase for each field, and the actions that it stands for.
* `Chapter`, `Phrasebook`, `Phrasebook.Takes`: the phrases of the four routines, and the actions
  that the bodies of the routines take.
-/

namespace WireSchema

/-- How the length of a field is measured. -/
inductive LengthAction
  /-- By the size of its type. -/
  | fixed
  /-- By a query at run time. -/
  | dynamic
  deriving DecidableEq, Repr

/-- How a field is read. -/
inductive ReadAction
  /-- A scalar, where the field is not set yet. -/
  | guardedScalar
  /-- A one-byte count, where the field is not set yet, and then all items in a loop. -/
  | countedItems
  /-- A nested value that is allocated first where the field is not set yet. -/
  | allocateThenRecurse
  /-- A nested value in place. -/
  | recurseInPlace
  deriving DecidableEq, Repr

/-- How a field is written. -/
inductive WriteAction
  | scalar
  /-- A count, and then all items in a loop. -/
  | countedItems
  /-- A nested value. -/
  | recurse
  deriving DecidableEq, Repr

/-- How a field is disposed of. -/
inductive DisposeAction
  | nothing
  /-- Its memory is released and the field is unset. -/
  | release
  /-- All items are disposed of, then the memory is released and the field is unset. -/
  | itemsThenRelease
  deriving DecidableEq, Repr

/-- What the four routines do with a field. -/
structure FieldActions where
  length : LengthAction
  read : ReadAction
  write : WriteAction
  dispose : DisposeAction
  deriving DecidableEq, Repr

/-- The actions that the kind of a field asks for. A scalar is measured at run time and released if
it can own heap memory. -/
def PlannedField.actions (f : PlannedField) : FieldActions :=
  match f.kind with
  | .builtin =>
    if f.disposable then ⟨.dynamic, .guardedScalar, .scalar, .release⟩
    else ⟨.fixed, .guardedScalar, .scalar, .nothing⟩
  | .array => ⟨.dynamic, .countedItems, .countedItems, .itemsThenRelease⟩
  | .pointer => ⟨.dynamic, .allocateThenRecurse, .recurse, .release⟩
  | .nested => ⟨.fixed, .recurseInPlace, .recurse, .nothing⟩

theorem FieldType.depth_pos_of_kind {t : FieldType} (h : t.kind = .pointer) : 0 < t.depth := by
  unfold FieldType.kind at h
  split_ifs at h with _ _ hdepth
  exact hdepth

theorem FieldType.depth_eq_zero_of_kind {t : FieldType} (h : t.kind = .nested) : t.depth = 0 := by
  unfold FieldType.kind at h
  split_ifs at h with _ _ hdepth
  exact Nat.eq_zero_of_not_pos hdepth

/-- Of the fields that are not scalars, arrays and pointers can own heap memory. -/
theorem PlannedField.disposable_iff_of_kind_ne {f : PlannedField} (h : f.kind ≠ .builtin) :
    f.disposable = true ↔ f.kind = .array ∨ f.kind = .pointer := by
  unfold PlannedField.kind FieldType.kind at h ⊢
  unfold PlannedField.disposable FieldType.disposable
  split_ifs at h ⊢ <;> simp_all

/-- A type that is known on the wire. -/
structure WireType (α : Type) where
  name : String
  /-- The literals of the tag and the version of a message; an object has none. -/
  literals : Option (String × String)
  content : α

/-- The types of a plan with their fields, objects before messages. -/
def Plan.contracts (p : Plan) : List (WireType (List PlannedField)) :=
  p.objects.map (fun o => ⟨o.name, none, o.fields⟩) ++
    p.messages.map fun m =>
      ⟨m.name ++ "Message", some (hexByte m.id, hexByte m.version), m.fields⟩

/-- The number of failed reads that end the routine which reads the fields: one for each field, and
one more for the count of an array. -/
def failureExits (fields : List PlannedField) : Nat :=
  fields.length + fields.countP (·.kind = .array)

theorem failureExits_cons (f : PlannedField) (fields : List PlannedField) :
    failureExits (f :: fields) = (if f.kind = .array then 2 else 1) + failureExits fields := by
  by_cases hkind : f.kind = .array
  · simp only [failureExits, List.length_cons, List.countP_cons, hkind, decide_true, if_true]
    omega
  · simp only [failureExits, List.length_cons, List.countP_cons, hkind, decide_false, if_false,
      Bool.false_eq_true]
    omega

/-! ### Phrases -/

variable {φ σ α : Type}

/-- Code that consists of one phrase for each field, in the order of the fields, and the actions
that the phrases stand for. A book gives the phrases that there are for a field, each with its
action. -/
inductive Spells (book : φ → List (List σ × α)) : List φ → List σ → List α → Prop
  | nil : Spells book [] [] []
  | cons {f : φ} {fields : List φ} {phrase code : List σ} {a : α} {actions : List α}
      (hphrase : (phrase, a) ∈ book f) (hrest : Spells book fields code actions) :
      Spells book (f :: fields) (phrase ++ code) (a :: actions)

/-- Code with a phrase from the book for each field. -/
theorem Spells.of_forall_mem {book : φ → List (List σ × α)} {phrase : φ → List σ} {action : φ → α}
    {fields : List φ} (h : ∀ f ∈ fields, (phrase f, action f) ∈ book f) :
    Spells book fields (fields.flatMap phrase) (fields.map action) := by
  induction fields with
  | nil => exact .nil
  | cons f fields ih =>
    rw [List.forall_mem_cons] at h
    exact .cons h.1 (ih h.2)

/-- How the body of a routine is written: what it begins and ends with, and the phrases for its
fields. -/
structure Chapter (φ σ α : Type) where
  opening : List σ := []
  phrases : φ → List (List σ × α)
  closing : List σ := []

/-- The body of a routine takes these actions with its fields, in order. -/
def Chapter.Takes (c : Chapter φ σ α) (fields : List φ) (body : List σ) (actions : List α) : Prop :=
  ∃ code, body = c.opening ++ code ++ c.closing ∧ Spells c.phrases fields code actions

theorem Chapter.takes_flatMap {c : Chapter φ σ α} {phrase : φ → List σ} {action : φ → α}
    {fields : List φ} (h : ∀ f ∈ fields, (phrase f, action f) ∈ c.phrases f) :
    c.Takes fields (c.opening ++ fields.flatMap phrase ++ c.closing) (fields.map action) :=
  ⟨_, rfl, .of_forall_mem h⟩

/-- How the four routines of a type are written. -/
structure Phrasebook (φ σ : Type) where
  length : Chapter φ σ LengthAction
  read : Chapter φ σ ReadAction
  write : Chapter φ σ WriteAction
  dispose : Chapter φ σ DisposeAction

/-- The bodies of the four routines of a type. -/
structure Bodies (σ : Type) where
  length : List σ
  read : List σ
  write : List σ
  dispose : List σ

/-- All code in the bodies. -/
def Bodies.all (b : Bodies σ) : List σ :=
  b.length ++ b.read ++ b.write ++ b.dispose

/-- The four routines of a type take these actions with its fields, in order. -/
structure Phrasebook.Takes (b : Phrasebook φ σ) (fields : List φ) (bodies : Bodies σ)
    (actions : List FieldActions) : Prop where
  length : b.length.Takes fields bodies.length (actions.map (·.length))
  read : b.read.Takes fields bodies.read (actions.map (·.read))
  write : b.write.Takes fields bodies.write (actions.map (·.write))
  dispose : b.dispose.Takes fields bodies.dispose (actions.map (·.dispose))

end WireSchema
