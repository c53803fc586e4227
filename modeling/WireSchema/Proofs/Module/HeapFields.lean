import WireSchema.Proofs.Module.Phrases

/-!
# Fields that own heap memory in emitted Rust

A field whose type has an array mark or a pointer mark can own heap memory. Such a field is measured
at run time, and its disposal ends by making it absent, which releases what it owns. The items of an
array of nested values are disposed of before. Any other field has a fixed size and no statement in
the disposal.

## Main definitions

* `Module.Expr.parts`, `Module.Block.parts`: all expressions in an expression or a block.
* `Module.Block.Touches`: a block mentions a field of the current object.
* `Module.IsRelease`: a block that makes a field absent at its end.
* `Module.OwnsHeap`: the statements for a field fit what it can own.

## Main results

* `Module.isRelease_disposeOf_iff`: what is released.
* `Module.touches_disposeRoutine_iff`: the fields that the disposal of all fields touches.
* `Module.ownsHeap`: the statements for every field fit what it can own.
-/

namespace WireSchema.Module

open Block

/-! ### The expressions of a block -/

mutual

/-- All expressions in an expression, with itself. -/
def Expr.parts : Expr → List Expr
  | .name ts => [.name ts]
  | .field ident => [.field ident]
  | .borrow e => .borrow e :: e.parts
  | .negation e => .negation e :: e.parts
  | .range low high => .range low high :: low.parts ++ high.parts
  | .group e => .group e :: e.parts
  | .item list index => .item list index :: list.parts ++ index.parts
  | .cast e type => .cast e type :: e.parts
  | .closure parameter body => .closure parameter body :: body.parts
  | .call function args trailing =>
    .call function args trailing :: function.parts ++ argParts args
  | .method e m args => .method e m args :: e.parts ++ argParts args

/-- All expressions in arguments. -/
def argParts : List Expr → List Expr
  | [] => []
  | e :: es => e.parts ++ argParts es

end

namespace Block

/-- All expressions in a block. -/
def parts : Block → List Expr
  | done => []
  | value e => e.parts
  | run e rest => e.parts ++ rest.parts
  | assign target e rest => target.parts ++ e.parts ++ rest.parts
  | bind _ e rest => e.parts ++ rest.parts
  | bindPresent _ e otherwise rest => e.parts ++ otherwise.parts ++ rest.parts
  | give e rest => e.parts ++ rest.parts
  | .when c body rest => c.parts ++ body.parts ++ rest.parts
  | whenPresent _ e body rest => e.parts ++ body.parts ++ rest.parts
  | each _ e body rest => e.parts ++ body.parts ++ rest.parts
  | .cases e _ present absent rest => e.parts ++ present.parts ++ absent.parts ++ rest.parts
  | casesValue e _ present absent rest => e.parts ++ present.parts ++ absent.parts ++ rest.parts

/-- Does the block mention a field of the current object? -/
def Touches (b : Block) (x : String) : Prop :=
  .field x ∈ b.parts

end Block

/-! ### Release -/

/-- What is disposed of before a field is made absent: all items of an array of nested values. -/
def innerRelease (f : Field) : Block :=
  if f.plan.kind = .array then
    .whenPresent "items" (.method (target f) "as_mut" [])
      (.each "item" (.method (word "items") "iter_mut" [])
        (.run (.method (word "item") "dispose" []) .done) .done) .done
  else .done

/-- Does the block dispose of what the field leads to and make the field absent at its end? -/
def IsRelease (f : Field) (b : Block) : Prop :=
  b = innerRelease f ++ unset f

theorem not_isRelease_done (f : Field) : ¬IsRelease f .done := by
  unfold IsRelease innerRelease
  split_ifs <;> exact fun h => Block.noConfusion h

theorem isRelease_disposeOf {f : Field} (h : f.plan.disposable = true) :
    IsRelease f (disposeOf f) := by
  unfold IsRelease innerRelease disposeOf Field.kind
  cases hkind : f.plan.kind with
  | builtin => simp only [h, if_true, reduceCtorEq, if_false]; rfl
  | array => rfl
  | pointer => rfl
  | nested => simp [PlannedField.disposable_iff_of_kind_ne, hkind] at h

/-- A field that cannot own heap memory has no statement in the disposal. -/
theorem disposeOf_eq_done {f : Field} (h : f.plan.disposable = false) : disposeOf f = .done := by
  have hiff := PlannedField.disposable_iff_of_kind_ne (f := f.plan)
  cases hkind : f.plan.kind with
  | builtin => simp [disposeOf, Field.kind, hkind, h]
  | nested => simp [disposeOf, Field.kind, hkind]
  | array => simp [hkind, h] at hiff
  | pointer => simp [hkind, h] at hiff

theorem isRelease_disposeOf_iff (f : Field) :
    IsRelease f (disposeOf f) ↔ f.plan.disposable = true := by
  refine ⟨fun h => ?_, isRelease_disposeOf⟩
  by_contra hdisposable
  rw [disposeOf_eq_done (by simpa using hdisposable)] at h
  exact not_isRelease_done f h

/-! ### Touched fields -/

variable {x : String}

/-- The disposal of a field touches the field if it can own heap memory, and nothing otherwise. -/
theorem touches_disposeOf_append_iff (f : Field) (b : Block) :
    (disposeOf f ++ b).Touches x ↔ (f.plan.disposable = true ∧ x = f.ident) ∨ b.Touches x := by
  have hiff := PlannedField.disposable_iff_of_kind_ne (f := f.plan)
  change ((disposeOf f).append b).Touches x ↔ _
  cases hkind : f.plan.kind with
  | builtin =>
    simp only [disposeOf, Field.kind, hkind]
    split_ifs with h <;>
      simp [h, unset, append, Touches, parts, target, absent, Expr.parts]
  | array =>
    simp [disposeOf, Field.kind, hkind, hiff, unset, append, Touches, parts, target, absent,
      Expr.parts, argParts, word]
  | pointer =>
    simp [disposeOf, Field.kind, hkind, hiff, unset, append, Touches, parts, target, absent,
      Expr.parts]
  | nested => simp [disposeOf, Field.kind, hkind, hiff, append]

/-- The disposal of all fields touches the fields that can own heap memory, and no others. -/
theorem touches_disposeRoutine_iff (fields : List Field) (x : String) :
    (disposeRoutine fields).body.Touches x ↔
      ∃ f ∈ fields, f.plan.disposable = true ∧ x = f.ident := by
  rw [disposeRoutine]
  induction fields with
  | nil => simp [concat, Touches, parts]
  | cons f fields ih =>
    rw [List.map_cons, concat, touches_disposeOf_append_iff, ih]
    simp

/-! ### One field -/

/-- The statements for a field and their tokens fit what the field can own on the heap. -/
structure OwnsHeap (runtime : Tokens) (f : Field) : Prop where
  /-- The field is measured at run time if it can own heap memory, and by its type if not. -/
  length : lengthTokens runtime f =
    if f.plan.disposable then dynamicLength runtime f else fixedLength f
  /-- It is made absent if it can own heap memory, -/
  dispose_iff : IsRelease f (disposeOf f) ↔ f.plan.disposable = true
  /-- and has no statement in the disposal if not. -/
  dispose_eq_done : f.plan.disposable = false → disposeOf f = .done
  /-- The tokens say the same. -/
  dispose_tokens : disposeTokens f =
    if f.plan.disposable then if f.plan.kind = .array then itemsRelease f else valueRelease f
    else []

theorem ownsHeap (runtime : Tokens) (f : Field) : OwnsHeap runtime f where
  length := by
    have hiff := PlannedField.disposable_iff_of_kind_ne (f := f.plan)
    unfold lengthTokens Field.kind
    cases hkind : f.plan.kind with
    | builtin => rfl
    | _ => simp_all
  dispose_iff := isRelease_disposeOf_iff f
  dispose_eq_done := disposeOf_eq_done
  dispose_tokens := by
    have hiff := PlannedField.disposable_iff_of_kind_ne (f := f.plan)
    unfold disposeTokens Field.kind
    cases hkind : f.plan.kind with
    | builtin => rfl
    | _ => simp_all

end WireSchema.Module
