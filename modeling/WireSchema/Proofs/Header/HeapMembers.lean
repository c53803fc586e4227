import WireSchema.Proofs.FieldType.Indirection
import WireSchema.Proofs.Header.Phrases

/-!
# Members that own heap memory in emitted C++

A field whose type has an array mark or a pointer mark can own heap memory. Such a field is measured
at run time, and its disposal is a block that releases the member and then sets it to zero, with the
number of items for an array. Before the member itself, what it leads to is released: the items of
an array of nested values, and all cells of a chain of pointers but the first. Any other field has a
fixed size and no statement in the disposal. The routine that reads creates values on the heap for
fields of the first sort only.

## Main definitions

* `Header.Expr.parts`, `Header.Block.parts`: all expressions in an expression or a block.
* `Header.Block.Allocates`, `Header.Block.Touches`: what the expressions of a block do.
* `Header.IsRelease`, `Header.releaseLines`: a block that releases a member and unsets it, and its
  lines.
* `Header.OwnsHeap`: the statements for a field fit what it can own.

## Main results

* `Header.allocates_readOf_iff`: what is created on the heap by the routine that reads.
* `Header.isRelease_disposeOf_iff`: what is released.
* `Header.touches_disposeRoutine_iff`: the members that the disposal of all fields touches.
* `Header.ownsHeap`: the statements for every field fit what it can own.
-/

namespace WireSchema.Header

open Block

/-! ### The expressions of a block -/

mutual

/-- All expressions in an expression, with itself. -/
def Expr.parts : Expr → List Expr
  | .name s => [.name s]
  | .member f => [.member f]
  | .item a => .item a :: a.parts
  | .deref e => .deref e :: e.parts
  | .address e => .address e :: e.parts
  | .negation e => .negation e :: e.parts
  | .isUnset e => .isUnset e :: e.parts
  | .isSet e => .isSet e :: e.parts
  | .both a b => .both a b :: a.parts ++ b.parts
  | .sizeOf e => .sizeOf e :: e.parts
  | .call f args => .call f args :: argParts args
  | .onValue e m args => .onValue e m args :: e.parts ++ argParts args
  | .onPointer e m args => .onPointer e m args :: e.parts ++ argParts args
  | .construct type args => .construct type args :: argParts args
  | .constructArray type n => .constructArray type n :: n.parts

/-- All expressions in arguments. -/
def argParts : List Expr → List Expr
  | [] => []
  | e :: es => e.parts ++ argParts es

end

/-- All expressions in a statement on one line. -/
def Simple.parts : Simple → List Expr
  | declare _ _ value => value.parts
  | assign target value => target.parts ++ value.parts
  | increase target value => target.parts ++ value.parts
  | run e => e.parts
  | free e => e.parts
  | freeArray e => e.parts
  | give e => e.parts

/-- Is the expression a new value or a new array on the heap? -/
def Expr.isAllocation : Expr → Bool
  | .construct _ _ => true
  | .constructArray _ _ => true
  | _ => false

namespace Block

/-- All expressions in a block. -/
def parts : Block → List Expr
  | done => []
  | step s rest => s.parts ++ rest.parts
  | .when c body rest => c.parts ++ body.parts ++ rest.parts
  | each n body rest => n.parts ++ body.parts ++ rest.parts

/-- Does the block create anything on the heap? -/
def Allocates (b : Block) : Prop :=
  ∃ e ∈ b.parts, e.isAllocation = true

/-- Does the block mention a member of the current object? -/
def Touches (b : Block) (x : String) : Prop :=
  .member x ∈ b.parts

@[simp]
theorem parts_append (b b' : Block) : (b ++ b').parts = b.parts ++ b'.parts := by
  change (b.append b').parts = _
  induction b with
  | done => rfl
  | step s rest ih => simp only [append, parts, ih, List.append_assoc]
  | «when» c body rest _ ih => simp only [append, parts, ih, List.append_assoc]
  | each n body rest _ ih => simp only [append, parts, ih, List.append_assoc]

@[simp]
theorem parts_ofList (ss : List Simple) : (ofList ss).parts = ss.flatMap Simple.parts := by
  induction ss with
  | nil => rfl
  | cons s ss ih => simp only [ofList, parts, ih, List.flatMap_cons]

@[simp]
theorem parts_concat (bs : List Block) : (concat bs).parts = bs.flatMap parts := by
  induction bs with
  | nil => rfl
  | cons b bs ih => rw [concat, parts_append, ih, List.flatMap_cons]

theorem ofList_append (ss ss' : List Simple) : ofList (ss ++ ss') = ofList ss ++ ofList ss' := by
  induction ss with
  | nil => rfl
  | cons s ss ih => exact congrArg (step s) ih

section Touches

variable {x : String}

@[simp]
theorem touches_done_iff : done.Touches x ↔ False := by
  simp [Touches, parts]

@[simp]
theorem touches_step_iff {s : Simple} {rest : Block} :
    (step s rest).Touches x ↔ .member x ∈ s.parts ∨ rest.Touches x :=
  List.mem_append

@[simp]
theorem touches_when_iff {c : Expr} {body rest : Block} :
    (Block.when c body rest).Touches x ↔
      .member x ∈ c.parts ∨ body.Touches x ∨ rest.Touches x := by
  simp [Touches, parts]

@[simp]
theorem touches_each_iff {n : Expr} {body rest : Block} :
    (each n body rest).Touches x ↔ .member x ∈ n.parts ∨ body.Touches x ∨ rest.Touches x := by
  simp [Touches, parts]

@[simp]
theorem touches_append_iff {b b' : Block} : (b ++ b').Touches x ↔ b.Touches x ∨ b'.Touches x := by
  simp [Touches]

theorem touches_concat_iff {bs : List Block} :
    (concat bs).Touches x ↔ ∃ b ∈ bs, b.Touches x := by
  simp [Touches]

end Touches

end Block

/-! ### Chains of pointers -/

variable {e : Expr} {x : String}

theorem member_mem_parts_through (n : Nat) :
    .member x ∈ (through e n).parts ↔ .member x ∈ e.parts := by
  induction n with
  | zero => rfl
  | succ n ih => simp [through, Expr.parts, ih]

theorem member_mem_parts_invoke (depth : Nat) (method : String) :
    .member x ∈ (invoke e depth method []).parts ↔ .member x ∈ e.parts := by
  cases depth with
  | zero => simp [invoke, Expr.parts, argParts]
  | succ n => simp [invoke, Expr.parts, argParts, member_mem_parts_through]

theorem touches_release_iff (n : Nat) :
    (ofList (release e n)).Touches x ↔ 0 < n ∧ .member x ∈ e.parts := by
  induction n with
  | zero => simp [release, ofList]
  | succ n ih =>
    rw [release, ofList, touches_step_iff, ih, Simple.parts, member_mem_parts_through]
    simp

/-- The release of all cells of a chain but the first. -/
def innerCells (e : Expr) (depth : Nat) : List Simple :=
  (List.range (depth - 1)).reverse.map fun k => .free (through e (k + 1))

/-- The release of a chain ends with its first cell. -/
theorem release_succ_eq (e : Expr) (n : Nat) :
    release e (n + 1) = innerCells e (n + 1) ++ [.free e] := by
  induction n with
  | zero => rfl
  | succ n ih =>
    rw [release, ih]
    simp [innerCells, List.range_succ]

/-! ### Allocation -/

theorem isAllocation_allocate (base : String) {depth : Nat} (h : 0 < depth) :
    (allocate base depth).isAllocation = true := by
  match depth with
  | 1 => rfl
  | n + 2 => rfl

theorem mem_parts_self (e : Expr) : e ∈ e.parts := by
  cases e <;> simp [Expr.parts]

theorem not_allocates_failure (rollback : Bool) : ¬(failure rollback).Allocates := by
  cases rollback <;>
    simp [Allocates, failure, Simple.parts, Expr.parts, argParts, Expr.isAllocation]

/-- Values are created on the heap for the items of an array and for what a pointer points to, and
only there: the serializer itself creates the scalars that it reads. -/
theorem allocates_readOf_iff (rollback : Bool) (f : PlannedField) :
    (readOf rollback f).Allocates ↔ f.kind = .array ∨ f.kind = .pointer := by
  have hfailure := not_allocates_failure rollback
  cases hkind : f.kind with
  | builtin =>
    simpa [readOf, hkind, Allocates, parts, Expr.parts, argParts, target, serializer,
      Expr.isAllocation] using hfailure
  | nested =>
    simpa [readOf, hkind, orFail, deserializeCall, invoke, Allocates, parts, Expr.parts, argParts,
      target, serializer, Expr.isAllocation] using hfailure
  | array =>
    refine iff_of_true ⟨.constructArray f.type.reference (.name "__len"), ?_, rfl⟩ (.inl rfl)
    simp [readOf, hkind, readCount, parts, Simple.parts, Expr.parts]
  | pointer =>
    have hnew : (allocate f.type.base f.type.depth).isAllocation = true :=
      isAllocation_allocate _ (FieldType.depth_pos_of_kind hkind)
    refine iff_of_true ⟨_, ?_, hnew⟩ (.inr rfl)
    simp [readOf, hkind, allocateAt, parts, Simple.parts, mem_parts_self]

/-- The lines that create values for a field: an array with as many items as were counted, items
behind pointers one by one, and what a pointer points to. -/
def creationLines (d : Nat) (f : PlannedField) : List Line :=
  match f.kind with
  | .array =>
    ⟨d + 2, place f ++ " = new " ++ f.type.reference ++ "[__len]();"⟩ ::
      if 0 < f.type.depth then
        [⟨d + 3, itemPlace f ++ " = " ++ allocText f.type.base f.type.depth ++ ";"⟩]
      else []
  | .pointer => [⟨d + 2, place f ++ " = " ++ allocText f.type.base f.type.depth ++ ";"⟩]
  | .builtin => []
  | .nested => []

theorem creationLines_ne_nil_iff (d : Nat) (f : PlannedField) :
    creationLines d f ≠ [] ↔ f.kind = .array ∨ f.kind = .pointer := by
  unfold creationLines
  cases f.kind <;> simp

theorem mem_readLinesOf_of_creationLines {d : Nat} (rollback : Bool) {f : PlannedField} {l : Line}
    (h : l ∈ creationLines d f) : l ∈ readLinesOf d rollback f := by
  unfold creationLines at h
  unfold readLinesOf
  cases hkind : f.kind with
  | builtin => simp [hkind] at h
  | nested => simp [hkind] at h
  | pointer =>
    simp only [hkind, List.mem_singleton] at h
    simp [pointerRead, h]
  | array =>
    simp only [hkind] at h
    by_cases hdepth : 0 < f.type.depth
    · simp only [hdepth, if_true, List.mem_cons, List.not_mem_nil, or_false] at h
      rcases h with rfl | rfl <;> simp [itemsRead, hdepth]
    · simp only [hdepth, if_false, List.mem_singleton] at h
      simp [itemsRead, h]

/-! ### Release -/

/-- The statements that unset a field: its member and, for an array, the number of items. -/
def resets (f : PlannedField) : List Simple :=
  .assign (target f) zero :: if f.kind = .array then [.assign (countOf f) zero] else []

/-- The statement that releases what the member of a field points to. -/
def freeTarget (f : PlannedField) : Simple :=
  if f.type.isArray then .freeArray (target f) else .free (target f)

/-- What is released before the member of a field: all items of an array of nested values, nothing
for an array of scalars, and all cells but the first for a chain of pointers. -/
def innerRelease (f : PlannedField) : Block :=
  if f.kind = .array then .each (countOf f) (disposeItem f) .done
  else if f.type.isArray then .done
  else ofList (innerCells (target f) f.type.depth)

/-- Does the block, where the field is set, release what its member leads to and then the member
itself, and unset the field at its end? -/
def IsRelease (f : PlannedField) (b : Block) : Prop :=
  b = whenSet (target f) (innerRelease f ++ ofList (freeTarget f :: resets f))

theorem not_isRelease_done (f : PlannedField) : ¬IsRelease f .done :=
  fun h => Block.noConfusion h

/-- A chain of pointers to no array is released and unset. -/
theorem isRelease_release {f : PlannedField} (harray : f.type.isArray = false)
    (hdepth : 0 < f.type.depth) (hkind : f.kind ≠ .array) :
    IsRelease f
      (whenSet (target f)
        (ofList (release (target f) f.type.depth ++ [.assign (target f) zero]))) := by
  obtain ⟨n, hn⟩ := Nat.exists_eq_add_one.2 hdepth
  rw [IsRelease, innerRelease, if_neg hkind, if_neg (by simp [harray]), hn, release_succ_eq,
    List.append_assoc, ofList_append]
  simp [freeTarget, resets, harray, hkind]

theorem isRelease_disposeOf {f : PlannedField} (h : f.disposable = true) :
    IsRelease f (disposeOf f) := by
  have hisArray : f.kind ≠ .builtin → (f.type.isArray = true ↔ f.kind = .array) :=
    FieldType.isArray_iff_of_kind_ne
  cases hkind : f.kind with
  | builtin =>
    simp only [disposeOf, hkind, h, if_true]
    cases harray : f.type.isArray with
    | false =>
      have hdepth : 0 < f.type.depth := by
        simpa [PlannedField.disposable, FieldType.disposable, harray] using h
      exact isRelease_release harray hdepth (by simp [hkind])
    | true =>
      simp only [IsRelease, innerRelease, freeTarget, resets, harray, hkind, reduceCtorEq, if_true,
        if_false]
      rfl
  | array =>
    have harray : f.type.isArray = true := by simpa [hkind] using hisArray
    simp only [IsRelease, innerRelease, disposeOf, hkind, freeTarget, resets, harray, if_true]
    rfl
  | pointer =>
    have harray : f.type.isArray = false := by simpa [hkind] using hisArray
    simp only [disposeOf, hkind]
    exact isRelease_release harray (FieldType.depth_pos_of_kind hkind) (by simp [hkind])
  | nested => simp [PlannedField.disposable_iff_of_kind_ne, hkind] at h

/-- A field that cannot own heap memory has no statement in the disposal. -/
theorem disposeOf_eq_done {f : PlannedField} (h : f.disposable = false) : disposeOf f = .done := by
  have hiff := PlannedField.disposable_iff_of_kind_ne (f := f)
  cases hkind : f.kind with
  | builtin => simp [disposeOf, hkind, h]
  | nested => simp [disposeOf, hkind]
  | array => simp [hkind, h] at hiff
  | pointer => simp [hkind, h] at hiff

theorem isRelease_disposeOf_iff (f : PlannedField) :
    IsRelease f (disposeOf f) ↔ f.disposable = true := by
  refine ⟨fun h => ?_, isRelease_disposeOf⟩
  by_contra hdisposable
  rw [disposeOf_eq_done (by simpa using hdisposable)] at h
  exact not_isRelease_done f h

/-- The lines that release what the member of a field leads to, before the member itself. -/
def innerReleaseLines (d : Nat) (f : PlannedField) : List Line :=
  if f.kind = .array then itemLoop d f :: itemDisposal (d + 1) f ++ [⟨d, "\x7d"⟩]
  else if f.type.isArray then []
  else (List.range (f.type.depth - 1)).reverse.map fun k =>
    ⟨d, "delete " ++ (FieldType.stars (k + 1) ++ place f) ++ ";"⟩

/-- The lines of the release of a field. They end by setting its member to zero and, for an array,
the number of items. -/
def releaseLines (d : Nat) (f : PlannedField) : List Line :=
  [⟨d + 1, "if (" ++ place f ++ " != 0) \x7b"⟩] ++
    innerReleaseLines (d + 2) f ++
    [⟨d + 2, (if f.type.isArray then "delete[] " else "delete ") ++ place f ++ ";"⟩,
     ⟨d + 2, place f ++ " = 0;"⟩] ++
    (if f.kind = .array then [⟨d + 2, countPlace f ++ " = 0;"⟩] else []) ++
    [⟨d + 1, "\x7d"⟩]

theorem lines_innerRelease (d : Nat) (f : PlannedField) :
    (innerRelease f).lines d = innerReleaseLines d f := by
  unfold innerRelease innerReleaseLines
  split_ifs
  · simp only [Block.lines, lines_disposeItem, itemLoop_eq, List.cons_append]
  · rfl
  · simp [lines_ofList, innerCells, Simple.text, text_through, text_target]

theorem IsRelease.lines {f : PlannedField} {b : Block} (h : IsRelease f b) (d : Nat) :
    b.lines (d + 1) = releaseLines d f := by
  have hfree : (freeTarget f).text =
      (if f.type.isArray then "delete[] " else "delete ") ++ place f ++ ";" := by
    unfold freeTarget
    split_ifs <;> rfl
  have hresets : (ofList (resets f)).lines (d + 2) = ⟨d + 2, place f ++ " = 0;"⟩ ::
      if f.kind = .array then [⟨d + 2, countPlace f ++ " = 0;"⟩] else [] := by
    unfold resets
    split_ifs <;>
      simp only [lines_ofList, List.map_cons, List.map_nil, text_assign_zero, text_target,
        text_countOf_eq]
  rw [h]
  simp only [whenSet, Block.lines, whenHead_isSet, text_target, lines_append, lines_innerRelease,
    ofList, hfree, Nat.add_assoc, Nat.reduceAdd, hresets, releaseLines, List.cons_append,
    List.nil_append, List.append_assoc]

/-! ### Touched members -/

theorem member_mem_parts_target (f : PlannedField) :
    .member x ∈ (target f).parts ↔ x = f.name := by
  simp [target, Expr.parts]

theorem touches_disposeItem_iff (f : PlannedField) :
    (disposeItem f).Touches x ↔ x = f.name := by
  have hitem : .member x ∈ (itemOf f).parts ↔ x = f.name := by
    simp [itemOf, Expr.parts, member_mem_parts_target]
  unfold disposeItem
  split_ifs with hdepth
  · simp [ofList, Simple.parts, member_mem_parts_invoke, hitem]
  · simp [whenSet, ofList, Simple.parts, Expr.parts, member_mem_parts_invoke,
      touches_release_iff, hitem]

/-- The guarded release of a chain touches the member that it starts from. -/
theorem touches_whenSet_release_iff (f : PlannedField) (n : Nat) :
    (whenSet (target f) (ofList (release (target f) n ++ [.assign (target f) zero]))).Touches x ↔
      x = f.name := by
  by_cases hx : x = f.name <;>
    simp [hx, whenSet, ofList_append, ofList, touches_release_iff, Simple.parts, Expr.parts,
      member_mem_parts_target, zero]

/-- The disposal of a field touches the members of the field if it can own heap memory, and nothing
otherwise. -/
theorem touches_disposeOf_iff (f : PlannedField) :
    (disposeOf f).Touches x ↔ f.disposable = true ∧ x ∈ (members f).map Member.name := by
  have hdisposable := PlannedField.disposable_iff_of_kind_ne (f := f)
  cases hkind : f.kind with
  | builtin =>
    simp only [disposeOf, hkind, members]
    split_ifs with h harray
    · simp [h, whenSet, ofList, Simple.parts, Expr.parts, member_mem_parts_target, zero]
    · simp [h, touches_whenSet_release_iff]
    · simp [h]
  | array =>
    have hcount : .member x ∈ (countOf f).parts ↔ x = countName f.name := by
      simp [countOf, Expr.parts]
    have hend : (ofList [.freeArray (target f), .assign (target f) zero,
        .assign (countOf f) zero]).Touches x ↔ x = f.name ∨ x = countName f.name := by
      simp [ofList, Simple.parts, Expr.parts, member_mem_parts_target, hcount, zero]
    have hmembers : x ∈ (members f).map Member.name ↔ x = f.name ∨ x = countName f.name := by
      simp [members, hkind]
    have hset : .member x ∈ (Expr.isSet (target f)).parts ↔ x = f.name := by
      simp [Expr.parts, member_mem_parts_target]
    have howned : f.disposable = true := (hdisposable (by simp [hkind])).2 (.inl hkind)
    simp only [disposeOf, hkind, whenSet, touches_when_iff, touches_each_iff, touches_done_iff,
      touches_disposeItem_iff, hset, hcount, hend, hmembers, howned, true_and, or_false]
    by_cases hx : x = f.name <;> simp [hx]
  | pointer => simp [disposeOf, hkind, members, hdisposable, touches_whenSet_release_iff]
  | nested => simp [disposeOf, hkind, hdisposable]

/-- The disposal of all fields touches the members of the fields that can own heap memory, and no
others. -/
theorem touches_disposeRoutine_iff (fields : List PlannedField) (x : String) :
    (disposeRoutine fields).body.Touches x ↔
      ∃ f ∈ fields, f.disposable = true ∧ x ∈ (members f).map Member.name := by
  simp only [disposeRoutine, touches_concat_iff, List.mem_map, exists_exists_and_eq_and,
    touches_disposeOf_iff]

/-! ### One field -/

/-- The statements for a field and their lines fit what the field can own on the heap. -/
structure OwnsHeap (d : Nat) (rollback : Bool) (f : PlannedField) : Prop where
  /-- The field is measured at run time if it can own heap memory, an array with the number of its
  items, and by its type if not. -/
  length : lengthLines d f =
    if f.disposable then if f.kind = .array then itemsLength d f else dynamicLength d f
    else fixedLength d f
  /-- It is released and unset if it can own heap memory, -/
  dispose_iff : IsRelease f (disposeOf f) ↔ f.disposable = true
  /-- and has no statement in the disposal if not. -/
  dispose_eq_done : f.disposable = false → disposeOf f = .done
  /-- The lines say the same. -/
  dispose_lines : disposeLines d f = if f.disposable then releaseLines d f else []
  /-- Values are created on the heap for arrays and pointers, -/
  allocates_iff : (readOf rollback f).Allocates ↔ f.kind = .array ∨ f.kind = .pointer
  /-- by these lines, -/
  creations : ((readOf rollback f).Allocates ↔ creationLines d f ≠ []) ∧
    ∀ l ∈ creationLines d f, l ∈ readLinesOf d rollback f
  /-- and what they are created for is released and unset. -/
  isRelease_of_allocates : (readOf rollback f).Allocates → IsRelease f (disposeOf f)

theorem ownsHeap (d : Nat) (rollback : Bool) (f : PlannedField) : OwnsHeap d rollback f where
  length := by
    have hiff := PlannedField.disposable_iff_of_kind_ne (f := f)
    unfold lengthLines
    cases hkind : f.kind with
    | builtin => cases f.disposable <;> rfl
    | _ => simp_all
  dispose_iff := isRelease_disposeOf_iff f
  dispose_eq_done := disposeOf_eq_done
  dispose_lines := by
    rw [← lines_disposeOf]
    split_ifs with h
    · exact (isRelease_disposeOf h).lines d
    · rw [disposeOf_eq_done (by simpa using h)]
      rfl
  allocates_iff := allocates_readOf_iff rollback f
  creations := ⟨(allocates_readOf_iff rollback f).trans (creationLines_ne_nil_iff d f).symm,
    fun _ => mem_readLinesOf_of_creationLines rollback⟩
  isRelease_of_allocates h := by
    have hkind := (allocates_readOf_iff rollback f).1 h
    refine isRelease_disposeOf ((PlannedField.disposable_iff_of_kind_ne ?_).2 hkind)
    rcases hkind with hkind | hkind <;> simp [hkind]

end WireSchema.Header
