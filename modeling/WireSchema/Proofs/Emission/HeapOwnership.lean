import WireSchema.Proofs.Header.HeapMembers
import WireSchema.Proofs.Module.HeapFields

/-!
# What can be allocated is measured and released

The kind of a field and whether it can own heap memory are read off its type text separately, and
each routine decides by a combination of the two. All routines of both backends decide alike: a
field that can own heap memory is measured at run time and released when the object is disposed of,
and any other field has a fixed size and is left alone.

## Main results

* `heap_memory_measured_and_released`: for every list of fields, the routines of both backends treat
  heap memory alike.
-/

namespace WireSchema

/-- **What can be allocated is exactly what is measured at run time and released.** The lines of the
four routines of a class and the tokens of those of a struct are made of phrases for their fields.
For each field, whatever type text it was read from, they ask for the size at run time if the field
can own heap memory, and take the size of the type if not; they release and unset the field if it
can own heap memory, and have no statement for it if not. In a header the release ends by setting
the member to zero, with the number of items for an array, and every field for which reading creates
a value on the heap is released. Disposal touches the members of the fields that can own heap
memory, and no other member. -/
theorem heap_memory_measured_and_released (isMessage rollback : Bool) (d : Nat)
    (runtime : Module.Tokens) (fields : List PlannedField) (moduleFields : List Module.Field) :
    ((Header.routines isMessage rollback fields).flatMap (Header.Routine.lines d) =
        Header.bodyLines d (Header.routineBodies d isMessage rollback fields) ∧
      (∀ f ∈ fields, Header.OwnsHeap d rollback f) ∧
      (Header.disposeRoutine fields).body.lines (d + 1) =
        fields.flatMap (Header.disposeLines d) ∧
      ∀ x, (Header.disposeRoutine fields).body.Touches x ↔
        ∃ f ∈ fields, f.disposable = true ∧ x ∈ (Header.members f).map Header.Member.name) ∧
    ((Module.routines runtime isMessage rollback moduleFields).flatMap Module.Routine.tokens =
        Module.bodyTokens runtime
          (Module.routineBodies runtime isMessage rollback moduleFields) ∧
      (∀ f ∈ moduleFields, Module.OwnsHeap runtime f) ∧
      (Module.disposeRoutine moduleFields).body.tokens =
        moduleFields.flatMap Module.disposeTokens ∧
      ∀ x, (Module.disposeRoutine moduleFields).body.Touches x ↔
        ∃ f ∈ moduleFields, f.plan.disposable = true ∧ x = f.ident) :=
  ⟨⟨Header.lines_routines d isMessage rollback fields,
      fun f _ => Header.ownsHeap d rollback f,
      Header.lines_fields d (Header.lines_disposeOf d) fields,
      Header.touches_disposeRoutine_iff fields⟩,
    ⟨Module.tokens_routines runtime isMessage rollback moduleFields,
      fun f _ => Module.ownsHeap runtime f,
      (Module.tokens_fields Module.endsDone_disposeOf Module.tokens_disposeOf moduleFields).2,
      Module.touches_disposeRoutine_iff moduleFields⟩⟩

end WireSchema
