import WireSchema.Header.Emit
import WireSchema.Proofs.Contract.Basic
import WireSchema.Proofs.Header.Lines

/-!
# The lines of emitted C++ routines

The four routines of a class line by line, with the depth of each line and each brace written out.
For every field a routine has a phrase, a few lines that depend on the kind of the field and mention
its member, the pointers before its value and the type that is allocated. The blocks from which the
routines are emitted render to these lines.

Each phrase stands for an action, so that the lines of a routine say what it does with each field.
The routine that reads has a line `return false;` for every field and one more for every array.

## Main definitions

* `Header.allocText`, `Header.releaseTexts`: the texts that allocate and release a chain of
  pointers.
* `Header.lengthLines`, `Header.readLinesOf`, `Header.writeLines`, `Header.disposeLines`: the phrase
  of a field in each routine.
* `Header.routineBodies`: the bodies of the four routines.
* `Header.phrasebook`: the phrases and the actions that they stand for.

## Main results

* `Header.lines_lengthOf`, `Header.lines_readOf`, `Header.lines_writeOf`, `Header.lines_disposeOf`:
  the blocks for a field render to its phrases.
* `Header.lines_routines`: the lines of the routines of a class.
* `Header.takes_routineBodies`: the routines take the actions that the kinds of their fields ask
  for.
* `Header.countP_isExit_routineBodies`: the number of failed ends of the routine that reads.
-/

namespace WireSchema.Header

open Block

/-! ### Texts -/

/-- The member of a field. -/
def place (f : PlannedField) : String := "this->" ++ f.name

/-- The member that holds the number of items of an array field. -/
def countPlace (f : PlannedField) : String := "this->" ++ countName f.name

/-- The item of an array field at the loop index. -/
def itemPlace (f : PlannedField) : String := place f ++ "[__i]"

/-- The text that allocates a value behind `depth` pointers. -/
def allocText (base : String) : (depth : Nat) → String
  | 0 => base ++ "()"
  | 1 => "new " ++ base ++ "()"
  | n + 2 => "new " ++ base ++ FieldType.stars (n + 1) ++ "(" ++ allocText base (n + 1) ++ ")"

/-- The texts that release a chain of `depth` pointers, the innermost first. -/
def releaseTexts (place : String) (depth : Nat) : List String :=
  (List.range depth).reverse.map fun k => "delete " ++ (FieldType.stars k ++ place) ++ ";"

attribute [local simp] Expr.text argTexts Simple.text Block.lines parenthesize Expr.needsParens
  serializer stream

theorem text_target (f : PlannedField) : (target f).text = place f := rfl

theorem text_countOf_eq (f : PlannedField) : (countOf f).text = countPlace f := rfl

theorem text_itemOf_eq (f : PlannedField) : (itemOf f).text = itemPlace f := rfl

theorem text_allocate (base : String) : (depth : Nat) →
    (allocate base depth).text = allocText base depth
  | 0 => String.toList_injective (by simp [allocate, allocText])
  | 1 => String.toList_injective (by simp [allocate, allocText])
  | n + 2 => by
    have ih := text_allocate base (n + 1)
    exact String.toList_injective (by simp [allocate, allocText, ih])

theorem map_text_release (e : Expr) (depth : Nat) :
    (release e depth).map Simple.text = releaseTexts e.text depth := by
  induction depth with
  | zero => rfl
  | succ n ih =>
    simp only [release, List.map_cons, ih, releaseTexts, List.range_succ, List.reverse_append,
      List.reverse_singleton, List.singleton_append, Simple.text, text_through]

theorem text_assign_zero (e : Expr) : (Simple.assign e zero).text = e.text ++ " = 0;" :=
  String.toList_injective (by simp [zero])

theorem text_freeArray (e : Expr) : (Simple.freeArray e).text = "delete[] " ++ e.text ++ ";" := rfl

theorem whenHead_isUnset (e : Expr) : whenHead (.isUnset e) = "if (" ++ e.text ++ " == 0) \x7b" :=
  String.toList_injective (by simp [whenHead])

theorem whenHead_isSet (e : Expr) : whenHead (.isSet e) = "if (" ++ e.text ++ " != 0) \x7b" :=
  String.toList_injective (by simp [whenHead])

theorem whenHead_scalarRead (f : PlannedField) :
    whenHead (.both (.isUnset (target f))
        (.negation (.onPointer serializer "read" [.address (target f)]))) =
      "if (" ++ place f ++ " == 0 && !serializer->read(&" ++ place f ++ ")) \x7b" :=
  String.toList_injective (by
    simp [whenHead, text_target])

theorem whenHead_deserializeCall {e : Expr} (he : e.needsParens = false) (depth : Nat) :
    whenHead (.negation (deserializeCall e depth)) =
      "if (!" ++ accessText e.text depth ++ "deserialize(serializer)) \x7b" := by
  rw [whenHead, Expr.text, deserializeCall, text_invoke he]
  exact String.toList_injective (by simp)

theorem text_run_serializeCall {e : Expr} (he : e.needsParens = false) (depth : Nat) :
    (Simple.run (serializeCall e depth)).text =
      accessText e.text depth ++ "serialize(serializer, stream);" := by
  rw [Simple.text, serializeCall, text_invoke he]
  exact String.toList_injective (by simp)

theorem text_run_dispose {e : Expr} (he : e.needsParens = false) (depth : Nat) :
    (Simple.run (invoke e depth "dispose" [])).text =
      accessText e.text depth ++ "dispose();" := by
  rw [Simple.text, text_invoke he]
  exact String.toList_injective (by simp)

/-! ### Phrases

The routines of a class stand at depth `d`. -/

variable (d : Nat)

/-- The end of a failed read at depth `d`; with `rollback` after the fields read so far are disposed
of. -/
def failureLines (rollback : Bool) : List Line :=
  (if rollback then [⟨d, "this->dispose();"⟩] else []) ++ [⟨d, "return false;"⟩]

/-- The first line of a loop over the items of an array field. -/
def itemLoop (f : PlannedField) : Line :=
  ⟨d, "for (unsigned char __i = 0; __i < " ++ countPlace f ++ "; __i++) \x7b"⟩

theorem itemLoop_eq (f : PlannedField) : itemLoop d f = ⟨d, loopHead (countOf f)⟩ := by
  rw [itemLoop, ← text_countOf_eq]
  rfl

/-- The size of the type of a member. -/
def fixedLength (f : PlannedField) : List Line :=
  [⟨d + 1, "len += sizeof " ++ place f ++ ";"⟩]

/-- The size of a member, found at run time. -/
def dynamicLength (f : PlannedField) : List Line :=
  [⟨d + 1, "len += serializer->sizeOf(" ++ place f ++ ");"⟩]

/-- The size of the items of an array, found at run time. -/
def itemsLength (f : PlannedField) : List Line :=
  [⟨d + 1, "len += serializer->sizeOf(" ++ place f ++ ", " ++ countPlace f ++ ");"⟩]

/-- The read of a scalar, where it is not set yet. -/
def scalarRead (rollback : Bool) (f : PlannedField) : List Line :=
  [⟨d + 1, "if (" ++ place f ++ " == 0 && !serializer->read(&" ++ place f ++ ")) \x7b"⟩] ++
    failureLines (d + 2) rollback ++
    [⟨d + 1, "\x7d"⟩]

/-- The read of a count and the allocation of as many items, where there are none yet, and then the
read of all items in a loop. Items behind pointers are allocated where they are not set yet. -/
def itemsRead (rollback : Bool) (f : PlannedField) : List Line :=
  [⟨d + 1, "if (" ++ place f ++ " == 0) \x7b"⟩,
   ⟨d + 2, "unsigned char __len = 0;"⟩,
   ⟨d + 2, "if (!serializer->read(&__len)) \x7b"⟩] ++
    failureLines (d + 3) rollback ++
    [⟨d + 2, "\x7d"⟩,
     ⟨d + 2, place f ++ " = new " ++ f.type.reference ++ "[__len]();"⟩,
     ⟨d + 2, countPlace f ++ " = __len;"⟩,
     ⟨d + 1, "\x7d"⟩,
     itemLoop (d + 1) f] ++
    (if 0 < f.type.depth then
      [⟨d + 2, "if (" ++ itemPlace f ++ " == 0) \x7b"⟩,
       ⟨d + 3, itemPlace f ++ " = " ++ allocText f.type.base f.type.depth ++ ";"⟩,
       ⟨d + 2, "\x7d"⟩]
    else []) ++
    [⟨d + 2,
      "if (!" ++ accessText (itemPlace f) f.type.depth ++ "deserialize(serializer)) \x7b"⟩] ++
    failureLines (d + 3) rollback ++
    [⟨d + 2, "\x7d"⟩,
     ⟨d + 1, "\x7d"⟩]

/-- The allocation of a chain of pointers, where there is none yet, and the read of the value at its
end. -/
def pointerRead (rollback : Bool) (f : PlannedField) : List Line :=
  [⟨d + 1, "if (" ++ place f ++ " == 0) \x7b"⟩,
   ⟨d + 2, place f ++ " = " ++ allocText f.type.base f.type.depth ++ ";"⟩,
   ⟨d + 1, "\x7d"⟩,
   ⟨d + 1, "if (!" ++ accessText (place f) f.type.depth ++ "deserialize(serializer)) \x7b"⟩] ++
    failureLines (d + 2) rollback ++
    [⟨d + 1, "\x7d"⟩]

/-- The read of a nested value in place. -/
def nestedRead (rollback : Bool) (f : PlannedField) : List Line :=
  [⟨d + 1, "if (!" ++ accessText (place f) 0 ++ "deserialize(serializer)) \x7b"⟩] ++
    failureLines (d + 2) rollback ++
    [⟨d + 1, "\x7d"⟩]

/-- The write of a scalar. -/
def scalarWrite (f : PlannedField) : List Line :=
  [⟨d + 1, "serializer->write(" ++ place f ++ ", stream);"⟩]

/-- The write of a count, and then of all items in a loop. -/
def itemsWrite (f : PlannedField) : List Line :=
  [⟨d + 1, "serializer->write(" ++ countPlace f ++ ", stream);"⟩,
   itemLoop (d + 1) f,
   ⟨d + 2, accessText (itemPlace f) f.type.depth ++ "serialize(serializer, stream);"⟩,
   ⟨d + 1, "\x7d"⟩]

/-- The write of a nested value behind pointers. -/
def nestedWrite (depth : Nat) (f : PlannedField) : List Line :=
  [⟨d + 1, accessText (place f) depth ++ "serialize(serializer, stream);"⟩]

/-- The release of a chain of pointers, and the end of the member that led to it. -/
def chainRelease (f : PlannedField) : List Line :=
  [⟨d + 1, "if (" ++ place f ++ " != 0) \x7b"⟩] ++
    (releaseTexts (place f) f.type.depth).map (⟨d + 2, ·⟩) ++
    [⟨d + 2, place f ++ " = 0;"⟩,
     ⟨d + 1, "\x7d"⟩]

/-- The release of an array of scalars, and the end of the member that led to it. -/
def scalarsRelease (f : PlannedField) : List Line :=
  [⟨d + 1, "if (" ++ place f ++ " != 0) \x7b"⟩,
   ⟨d + 2, "delete[] " ++ place f ++ ";"⟩,
   ⟨d + 2, place f ++ " = 0;"⟩,
   ⟨d + 1, "\x7d"⟩]

/-- The disposal of one item of an array. The chain of pointers that led to it is released. -/
def itemDisposal (f : PlannedField) : List Line :=
  if f.type.depth = 0 then [⟨d, accessText (itemPlace f) 0 ++ "dispose();"⟩]
  else
    [⟨d, "if (" ++ itemPlace f ++ " != 0) \x7b"⟩,
     ⟨d + 1, accessText (itemPlace f) f.type.depth ++ "dispose();"⟩] ++
      (releaseTexts (itemPlace f) f.type.depth).map (⟨d + 1, ·⟩) ++
      [⟨d, "\x7d"⟩]

/-- The disposal of all items of an array, its release, and the end of the members that led to it.
-/
def itemsRelease (f : PlannedField) : List Line :=
  [⟨d + 1, "if (" ++ place f ++ " != 0) \x7b"⟩,
   itemLoop (d + 2) f] ++
    itemDisposal (d + 3) f ++
    [⟨d + 2, "\x7d"⟩,
     ⟨d + 2, "delete[] " ++ place f ++ ";"⟩,
     ⟨d + 2, place f ++ " = 0;"⟩,
     ⟨d + 2, countPlace f ++ " = 0;"⟩,
     ⟨d + 1, "\x7d"⟩]

/-! ### The phrase of a field -/

/-- The phrase of a field in the routine that measures. -/
def lengthLines (f : PlannedField) : List Line :=
  match f.kind with
  | .array => itemsLength d f
  | .builtin => if f.disposable then dynamicLength d f else fixedLength d f
  | .nested => fixedLength d f
  | .pointer => dynamicLength d f

/-- The phrase of a field in the routine that reads. -/
def readLinesOf (rollback : Bool) (f : PlannedField) : List Line :=
  match f.kind with
  | .builtin => scalarRead d rollback f
  | .array => itemsRead d rollback f
  | .pointer => pointerRead d rollback f
  | .nested => nestedRead d rollback f

/-- The phrase of a field in the routine that writes. -/
def writeLines (f : PlannedField) : List Line :=
  match f.kind with
  | .builtin => scalarWrite d f
  | .array => itemsWrite d f
  | .pointer => nestedWrite d f.type.depth f
  | .nested => nestedWrite d 0 f

/-- The phrase of a field in the routine that disposes. -/
def disposeLines (f : PlannedField) : List Line :=
  match f.kind with
  | .builtin =>
    if f.disposable then if f.type.isArray then scalarsRelease d f else chainRelease d f else []
  | .nested => []
  | .array => itemsRelease d f
  | .pointer => chainRelease d f

/-! ### The blocks for a field -/

theorem lines_ofList (ss : List Simple) (d : Nat) :
    (ofList ss).lines d = ss.map fun s => ⟨d, s.text⟩ := by
  induction ss with
  | nil => rfl
  | cons s ss ih => rw [ofList, Block.lines, ih, List.map_cons]

theorem lines_concat (bs : List Block) (d : Nat) :
    (concat bs).lines d = bs.flatMap (Block.lines d) := by
  induction bs with
  | nil => rfl
  | cons b bs ih => rw [concat, lines_append, ih, List.flatMap_cons]

theorem lines_failure (rollback : Bool) : (failure rollback).lines d = failureLines d rollback := by
  cases rollback <;> rfl

theorem lines_release (e : Expr) (depth : Nat) :
    (ofList (release e depth)).lines d = (releaseTexts e.text depth).map (⟨d, ·⟩) := by
  rw [lines_ofList, ← map_text_release, List.map_map]
  rfl

theorem lines_orFail_deserializeCall {e : Expr} (he : e.needsParens = false) (rollback : Bool)
    (depth : Nat) :
    (orFail rollback (deserializeCall e depth)).lines d =
      [⟨d, "if (!" ++ accessText e.text depth ++ "deserialize(serializer)) \x7b"⟩] ++
        failureLines (d + 1) rollback ++ [⟨d, "\x7d"⟩] := by
  rw [orFail, Block.lines, lines_failure, whenHead_deserializeCall he]
  rfl

theorem lines_lengthOf (f : PlannedField) : (lengthOf f).lines (d + 1) = lengthLines d f := by
  have hfixed : (ofList [.increase (.name "len") (.sizeOf (target f))]).lines (d + 1) =
      fixedLength d f := by
    simp only [lines_ofList, List.map_cons, List.map_nil, fixedLength, Simple.text, Expr.text,
      ← text_target]
    exact congrArg (fun text => [(⟨d + 1, text⟩ : Line)]) (String.toList_injective (by simp))
  have hdynamic : (ofList [.increase (.name "len")
      (.onPointer serializer "sizeOf" [target f])]).lines (d + 1) = dynamicLength d f := by
    simp only [lines_ofList, List.map_cons, List.map_nil, dynamicLength, ← text_target]
    refine congrArg (fun text => [(⟨d + 1, text⟩ : Line)]) (String.toList_injective ?_)
    simp
  have hitems : (ofList [.increase (.name "len")
      (.onPointer serializer "sizeOf" [target f, countOf f])]).lines (d + 1) = itemsLength d f := by
    simp only [lines_ofList, List.map_cons, List.map_nil, itemsLength, ← text_target,
      ← text_countOf_eq]
    refine congrArg (fun text => [(⟨d + 1, text⟩ : Line)]) (String.toList_injective ?_)
    simp
  unfold lengthOf lengthLines
  cases f.kind with
  | array => exact hitems
  | builtin => cases f.disposable with
    | false => exact hfixed
    | true => exact hdynamic
  | nested => exact hfixed
  | pointer => exact hdynamic

theorem lines_allocateAt (e : Expr) (t : FieldType) :
    (allocateAt e t).lines d =
      [⟨d, "if (" ++ e.text ++ " == 0) \x7b"⟩,
       ⟨d + 1, e.text ++ " = " ++ allocText t.base t.depth ++ ";"⟩, ⟨d, "\x7d"⟩] := by
  simp only [allocateAt, Block.lines, lines_ofList, whenHead_isUnset, List.map_cons, List.map_nil,
    Simple.text, text_allocate, List.cons_append, List.nil_append]

theorem lines_readCount (rollback : Bool) (f : PlannedField) :
    (readCount rollback f).lines d =
      [⟨d, "if (" ++ place f ++ " == 0) \x7b"⟩,
       ⟨d + 1, "unsigned char __len = 0;"⟩,
       ⟨d + 1, "if (!serializer->read(&__len)) \x7b"⟩] ++
        failureLines (d + 2) rollback ++
        [⟨d + 1, "\x7d"⟩,
         ⟨d + 1, place f ++ " = new " ++ f.type.reference ++ "[__len]();"⟩,
         ⟨d + 1, countPlace f ++ " = __len;"⟩,
         ⟨d, "\x7d"⟩] := by
  have hdeclare : (Simple.declare "unsigned char" "__len" zero).text =
      "unsigned char __len = 0;" := by decide
  have htest : whenHead (.negation (.onPointer serializer "read" [.address (.name "__len")])) =
      "if (!serializer->read(&__len)) \x7b" := by decide
  have hnew : (Simple.assign (target f) (.constructArray f.type.reference (.name "__len"))).text =
      place f ++ " = new " ++ f.type.reference ++ "[__len]();" :=
    String.toList_injective (by simp [text_target])
  have hcount : (Simple.assign (countOf f) (.name "__len")).text = countPlace f ++ " = __len;" :=
    String.toList_injective (by simp [text_countOf_eq])
  simp only [readCount, orFail, Block.lines, lines_append, lines_ofList, lines_failure,
    whenHead_isUnset, text_target, List.map_cons, List.map_nil, hdeclare, htest, hnew, hcount,
    List.cons_append, List.nil_append, List.append_assoc]

theorem lines_readOf (rollback : Bool) (f : PlannedField) :
    (readOf rollback f).lines (d + 1) = readLinesOf d rollback f := by
  unfold readOf readLinesOf
  cases f.kind with
  | builtin =>
    simp only [Block.lines, lines_failure, whenHead_scalarRead]
    rfl
  | array =>
    have hitem : (readItem rollback f).lines (d + 2) =
        (if 0 < f.type.depth then (allocateAt (itemOf f) f.type).lines (d + 2) else []) ++
          (orFail rollback (deserializeCall (itemOf f) f.type.depth)).lines (d + 2) := by
      rw [readItem, lines_append]
      split_ifs <;> rfl
    simp only [lines_append, lines_readCount, Block.lines, hitem, lines_allocateAt,
      lines_orFail_deserializeCall (d + 2) (e := itemOf f) rfl, text_itemOf_eq, itemsRead,
      itemLoop_eq, List.cons_append, List.nil_append, List.append_assoc,
      Nat.add_assoc, Nat.reduceAdd]
  | pointer =>
    simp only [lines_append, lines_allocateAt,
      lines_orFail_deserializeCall (d + 1) (e := target f) rfl, text_target, pointerRead,
      List.cons_append, List.nil_append, Nat.add_assoc, Nat.reduceAdd]
  | nested => exact lines_orFail_deserializeCall (d + 1) (e := target f) rfl rollback 0

theorem lines_writeScalar (e : Expr) :
    (writeScalar e).lines d = [⟨d, "serializer->write(" ++ e.text ++ ", stream);"⟩] := by
  rw [writeScalar, lines_ofList]
  refine congrArg (fun text => [(⟨d, text⟩ : Line)]) (String.toList_injective ?_)
  simp

theorem lines_writeOf (f : PlannedField) : (writeOf f).lines (d + 1) = writeLines d f := by
  unfold writeOf writeLines
  cases f.kind with
  | builtin => exact lines_writeScalar (d + 1) (target f)
  | array =>
    simp only [lines_append, lines_writeScalar, Block.lines, lines_ofList, List.map_cons,
      List.map_nil, text_run_serializeCall (e := itemOf f) rfl, text_itemOf_eq, text_countOf_eq,
      itemsWrite, itemLoop_eq, List.cons_append, List.nil_append, Nat.add_assoc,
      Nat.reduceAdd]
  | pointer =>
    simp only [lines_ofList, List.map_cons, List.map_nil,
      text_run_serializeCall (e := target f) rfl, text_target, nestedWrite]
  | nested =>
    simp only [lines_ofList, List.map_cons, List.map_nil,
      text_run_serializeCall (e := target f) rfl, text_target, nestedWrite]

theorem lines_disposeItem (f : PlannedField) : (disposeItem f).lines d = itemDisposal d f := by
  unfold disposeItem itemDisposal
  by_cases hdepth : f.type.depth = 0
  · simp only [hdepth, if_true, lines_ofList, List.map_cons, List.map_nil,
      text_run_dispose (e := itemOf f) rfl, text_itemOf_eq]
  · have hrelease := lines_release (d + 1) (itemOf f) f.type.depth
    rw [lines_ofList] at hrelease
    simp only [hdepth, if_false, whenSet, Block.lines, whenHead_isSet, lines_ofList,
      List.map_cons, text_run_dispose (e := itemOf f) rfl, hrelease, text_itemOf_eq,
      List.cons_append, List.nil_append]

theorem lines_whenSet_release (f : PlannedField) :
    (whenSet (target f)
        (ofList (release (target f) f.type.depth ++ [.assign (target f) zero]))).lines (d + 1) =
      chainRelease d f := by
  have hrelease := lines_release (d + 2) (target f) f.type.depth
  rw [lines_ofList] at hrelease
  simp only [whenSet, Block.lines, whenHead_isSet, lines_ofList, List.map_append, Nat.add_assoc,
    Nat.reduceAdd, hrelease, List.map_cons, List.map_nil, text_target, text_assign_zero,
    chainRelease, List.cons_append, List.nil_append, List.append_assoc]

theorem lines_disposeOf (f : PlannedField) : (disposeOf f).lines (d + 1) = disposeLines d f := by
  unfold disposeOf disposeLines
  cases f.kind with
  | builtin =>
    cases f.disposable with
    | false => rfl
    | true =>
      cases f.type.isArray with
      | false => exact lines_whenSet_release d f
      | true =>
        simp only [if_true, whenSet, Block.lines, whenHead_isSet, lines_ofList, List.map_cons,
          List.map_nil, text_target, text_assign_zero, text_freeArray, scalarsRelease,
          List.cons_append, List.nil_append, Nat.add_assoc, Nat.reduceAdd]
  | nested => rfl
  | array =>
    simp only [whenSet, Block.lines, whenHead_isSet, lines_ofList, lines_disposeItem, List.map_cons,
      List.map_nil, text_target, text_countOf_eq, text_assign_zero, itemsRelease, itemLoop_eq,
      text_freeArray, List.cons_append, List.nil_append, List.append_assoc, Nat.add_assoc,
      Nat.reduceAdd]
  | pointer => exact lines_whenSet_release d f

/-! ### The routines of a class -/

/-- The bodies of the four routines of a class. -/
def routineBodies (isMessage rollback : Bool) (fields : List PlannedField) : Bodies Line where
  length :=
    [⟨d + 1, "unsigned char len = 0;"⟩] ++ fields.flatMap (lengthLines d) ++
      [⟨d + 1, "return len;"⟩]
  read := fields.flatMap (readLinesOf d rollback) ++ [⟨d + 1, "return true;"⟩]
  write :=
    (if isMessage then [⟨d + 1, "Message::serialize(serializer, stream);"⟩] else []) ++
      fields.flatMap (writeLines d)
  dispose := fields.flatMap (disposeLines d)

/-- The lines of a routine with a given body. -/
def framed (signature : String) (body : List Line) : List Line :=
  ⟨d, signature ++ " \x7b"⟩ :: body ++ [⟨d, "\x7d"⟩]

/-- The lines of the four routines with given bodies. -/
def bodyLines (b : Bodies Line) : List Line :=
  framed d "unsigned char length(Serializer* serializer)" b.length ++
    framed d "bool deserialize(Serializer *serializer)" b.read ++
    framed d "void serialize(Serializer *serializer, Stream *stream)" b.write ++
    framed d "void dispose()" b.dispose

theorem lines_fields {block : PlannedField → Block} {phrase : PlannedField → List Line}
    (h : ∀ f, (block f).lines (d + 1) = phrase f) (fields : List PlannedField) :
    (concat (fields.map block)).lines (d + 1) = fields.flatMap phrase := by
  rw [lines_concat, List.flatMap_map]
  exact List.flatMap_congr fun f _ => h f

/-- The bodies of the routines of a class render to `routineBodies`. -/
theorem routineBodies_eq (isMessage rollback : Bool) (fields : List PlannedField) :
    routineBodies d isMessage rollback fields = {
      length := (lengthRoutine fields).body.lines (d + 1)
      read := (deserializeRoutine rollback fields).body.lines (d + 1)
      write := (serializeRoutine isMessage fields).body.lines (d + 1)
      dispose := (disposeRoutine fields).body.lines (d + 1) } := by
  have hmessage : (if isMessage then ofList [.run (.call "Message::serialize"
      [serializer, stream])] else Block.done).lines (d + 1) =
        if isMessage then [⟨d + 1, "Message::serialize(serializer, stream);"⟩] else [] := by
    cases isMessage <;> rfl
  simp only [lengthRoutine, deserializeRoutine, serializeRoutine, disposeRoutine, lines_append,
    lines_fields d (lines_lengthOf d), lines_fields d (lines_readOf d rollback),
    lines_fields d (lines_writeOf d), lines_fields d (lines_disposeOf d), hmessage]
  rfl

/-- The lines of the routines of a class. -/
theorem lines_routines (isMessage rollback : Bool) (fields : List PlannedField) :
    (routines isMessage rollback fields).flatMap (Routine.lines d) =
      bodyLines d (routineBodies d isMessage rollback fields) := by
  rw [routineBodies_eq]
  simp only [routines, Routine.lines, List.flatMap_cons, List.flatMap_nil, bodyLines, framed,
    List.append_nil, List.append_assoc, List.cons_append]
  rfl

theorem le_depth_of_mem_lines {b : Block} {d : Nat} {l : Line} (h : l ∈ b.lines d) :
    d ≤ l.depth := by
  induction b generalizing d with
  | done => cases h
  | step s rest ih =>
    rcases List.mem_cons.1 h with rfl | h
    · exact Nat.le_refl d
    · exact ih h
  | «when» c body rest ihbody ihrest =>
    simp only [Block.lines, List.cons_append, List.mem_cons, List.mem_append] at h
    rcases h with rfl | h | rfl | h
    · exact Nat.le_refl d
    · exact Nat.le_of_succ_le (ihbody h)
    · exact Nat.le_refl d
    · exact ihrest h
  | each n body rest ihbody ihrest =>
    simp only [Block.lines, List.cons_append, List.mem_cons, List.mem_append] at h
    rcases h with rfl | h | rfl | h
    · exact Nat.le_refl d
    · exact Nat.le_of_succ_le (ihbody h)
    · exact Nat.le_refl d
    · exact ihrest h

/-- The lines in the bodies of the routines are deeper than the routines. -/
theorem lt_depth_routineBodies (isMessage rollback : Bool) (fields : List PlannedField) :
    ∀ l ∈ (routineBodies d isMessage rollback fields).all, d < l.depth := by
  intro l hl
  simp only [routineBodies_eq, Bodies.all, List.mem_append] at hl
  rcases hl with ((hl | hl) | hl) | hl <;> exact le_depth_of_mem_lines hl

/-! ### Actions -/

/-- The phrases of the routines of a class at depth `d`, and the actions that they stand for. Only
what is behind pointers can be allocated and released as a chain of them. -/
def phrasebook (isMessage rollback : Bool) : Phrasebook PlannedField Line where
  length := {
    opening := [⟨d + 1, "unsigned char len = 0;"⟩]
    phrases := fun f =>
      [(fixedLength d f, .fixed), (dynamicLength d f, .dynamic), (itemsLength d f, .dynamic)]
    closing := [⟨d + 1, "return len;"⟩] }
  read := {
    phrases := fun f =>
      [(scalarRead d rollback f, .guardedScalar), (itemsRead d rollback f, .countedItems),
       (nestedRead d rollback f, .recurseInPlace)] ++
        if 0 < f.type.depth then [(pointerRead d rollback f, .allocateThenRecurse)] else []
    closing := [⟨d + 1, "return true;"⟩] }
  write := {
    opening := if isMessage then [⟨d + 1, "Message::serialize(serializer, stream);"⟩] else []
    phrases := fun f =>
      [(scalarWrite d f, .scalar), (itemsWrite d f, .countedItems),
       (nestedWrite d f.type.depth f, .recurse)] }
  dispose := {
    phrases := fun f =>
      [([], .nothing), (scalarsRelease d f, .release), (itemsRelease d f, .itemsThenRelease)] ++
        if 0 < f.type.depth then [(chainRelease d f, .release)] else [] }

section Phrases

variable (isMessage rollback : Bool) (f : PlannedField)

theorem lengthLines_mem :
    (lengthLines d f, f.actions.length) ∈ (phrasebook d isMessage rollback).length.phrases f := by
  unfold lengthLines PlannedField.actions
  cases f.kind with
  | builtin => cases f.disposable <;> simp [phrasebook]
  | _ => simp [phrasebook]

theorem readLinesOf_mem :
    (readLinesOf d rollback f, f.actions.read) ∈
      (phrasebook d isMessage rollback).read.phrases f := by
  unfold readLinesOf PlannedField.actions
  cases hkind : f.kind with
  | builtin => cases f.disposable <;> simp [phrasebook]
  | array => simp [phrasebook]
  | nested => simp [phrasebook]
  | pointer =>
    have hdepth : 0 < f.type.depth := FieldType.depth_pos_of_kind hkind
    simp [phrasebook, hdepth]

theorem writeLines_mem :
    (writeLines d f, f.actions.write) ∈ (phrasebook d isMessage rollback).write.phrases f := by
  unfold writeLines PlannedField.actions
  cases hkind : f.kind with
  | builtin => cases f.disposable <;> simp [phrasebook]
  | array => simp [phrasebook]
  | pointer => simp [phrasebook]
  | nested =>
    have hdepth : f.type.depth = 0 := FieldType.depth_eq_zero_of_kind hkind
    simp [phrasebook, hdepth]

theorem disposeLines_mem :
    (disposeLines d f, f.actions.dispose) ∈
      (phrasebook d isMessage rollback).dispose.phrases f := by
  unfold disposeLines PlannedField.actions
  cases hkind : f.kind with
  | builtin =>
    cases hdisposable : f.disposable with
    | false => simp [phrasebook]
    | true =>
      cases harray : f.type.isArray with
      | true => simp [phrasebook]
      | false =>
        have hdepth : 0 < f.type.depth := by
          simpa [PlannedField.disposable, FieldType.disposable, harray] using hdisposable
        simp [phrasebook, hdepth]
  | array => simp [phrasebook]
  | nested => simp [phrasebook]
  | pointer =>
    have hdepth : 0 < f.type.depth := FieldType.depth_pos_of_kind hkind
    simp [phrasebook, hdepth]

end Phrases

/-- The routines of a class take the actions that the kinds of its fields ask for. -/
theorem takes_routineBodies (isMessage rollback : Bool) (fields : List PlannedField) :
    (phrasebook d isMessage rollback).Takes fields (routineBodies d isMessage rollback fields)
      (fields.map PlannedField.actions) where
  length := by
    rw [List.map_map]
    exact Chapter.takes_flatMap fun f _ => lengthLines_mem d isMessage rollback f
  read := by
    rw [List.map_map]
    exact Chapter.takes_flatMap fun f _ => readLinesOf_mem d isMessage rollback f
  write := by
    rw [List.map_map, ← List.append_nil (routineBodies d isMessage rollback fields).write]
    exact Chapter.takes_flatMap fun f _ => writeLines_mem d isMessage rollback f
  dispose := by
    rw [List.map_map, ← List.append_nil (routineBodies d isMessage rollback fields).dispose]
    exact Chapter.takes_flatMap fun f _ => disposeLines_mem d isMessage rollback f

/-! ### Failed ends -/

/-- Does the routine end here because a read has failed? -/
def Line.isExit (l : Line) : Bool :=
  l.text == "return false;"

theorem isExit_eq_false {d : Nat} {text : String} (h : text.toList.head? ≠ some 'r') :
    Line.isExit ⟨d, text⟩ = false := by
  refine beq_eq_false_iff_ne.2 fun htext => h ?_
  rw [show text = "return false;" from htext]
  rfl

theorem countP_isExit_failureLines (rollback : Bool) :
    (failureLines d rollback).countP Line.isExit = 1 := by
  cases rollback <;> rfl

theorem countP_isExit_readLinesOf (rollback : Bool) (f : PlannedField) :
    (readLinesOf d rollback f).countP Line.isExit = if f.kind = .array then 2 else 1 := by
  have hif : ∀ (d : Nat) (text : String), Line.isExit ⟨d, "if (" ++ text⟩ = false :=
    fun d text => isExit_eq_false (by simp)
  have hnot : ∀ (d : Nat) (text : String), Line.isExit ⟨d, "if (!" ++ text⟩ = false :=
    fun d text => isExit_eq_false (by simp)
  have hthis : ∀ (d : Nat) (text : String), Line.isExit ⟨d, "this->" ++ text⟩ = false :=
    fun d text => isExit_eq_false (by simp)
  have hloop : ∀ d : Nat, (itemLoop d f).isExit = false :=
    fun d => isExit_eq_false (by simp)
  have hclosing : ∀ d : Nat, Line.isExit ⟨d, "\x7d"⟩ = false := fun d => rfl
  have hlen : ∀ d : Nat, Line.isExit ⟨d, "unsigned char __len = 0;"⟩ = false := fun d => rfl
  have htest : ∀ d : Nat, Line.isExit ⟨d, "if (!serializer->read(&__len)) \x7b"⟩ = false :=
    fun d => rfl
  unfold readLinesOf
  cases f.kind with
  | builtin =>
    simp only [scalarRead, String.append_assoc, List.countP_append, List.countP_cons,
      List.countP_nil, hif, hclosing, countP_isExit_failureLines]
    rfl
  | array =>
    by_cases hdepth : 0 < f.type.depth <;>
      simp only [itemsRead, place, itemPlace, countPlace, hdepth, if_true, if_false,
        String.append_assoc, List.countP_append, List.countP_cons, List.countP_nil, hif, hnot,
        hthis, hloop, hclosing, hlen, htest, countP_isExit_failureLines] <;>
      rfl
  | pointer =>
    simp only [pointerRead, place, String.append_assoc, List.countP_append, List.countP_cons,
      List.countP_nil, hif, hnot, hthis, hclosing, countP_isExit_failureLines]
    rfl
  | nested =>
    simp only [nestedRead, String.append_assoc, List.countP_append, List.countP_cons,
      List.countP_nil, hnot, hclosing, countP_isExit_failureLines]
    rfl

/-- The routine that reads the fields has one failed end for each field and one more for the count
of each array. -/
theorem countP_isExit_routineBodies (isMessage rollback : Bool) (fields : List PlannedField) :
    (routineBodies d isMessage rollback fields).read.countP Line.isExit = failureExits fields := by
  have hfields : (fields.flatMap (readLinesOf d rollback)).countP Line.isExit =
      failureExits fields := by
    induction fields with
    | nil => rfl
    | cons f fields ih =>
      rw [List.flatMap_cons, List.countP_append, countP_isExit_readLinesOf, ih, failureExits_cons]
  rw [routineBodies, List.countP_append, hfields]
  rfl

end WireSchema.Header
