import Mathlib.Tactic.Common
import WireSchema.Header.Emit

/-!
# The texts in emitted C++ routines

The routines of a class are trees whose leaves are texts: the names of members, types, methods and
variables. All of them are words that the routines share, or are made from the name and the type of
a field. So what holds of these holds of every text in the routines.

## Main definitions

* `Header.Expr.AllTexts`, `Header.Simple.AllTexts`, `Header.Block.AllTexts`: every text of a tree
  has a property.
* `Header.routineWords`: the words that all routines share.
* `Header.FieldTexts`: the texts that are made from a field have a property.
* `Header.MemberTexts`, `Header.PlanTexts`: the texts that a field and a plan put into classes have
  a property.

## Main results

* `Header.allTexts_routines`: the texts of the routines of a class.
-/

namespace WireSchema.Header

mutual

/-- Every text of an expression has a property. -/
def Expr.AllTexts (p : String → Prop) : Expr → Prop
  | .name s => p s
  | .member f => p f
  | .item a => a.AllTexts p
  | .deref e => e.AllTexts p
  | .address e => e.AllTexts p
  | .negation e => e.AllTexts p
  | .isUnset e => e.AllTexts p
  | .isSet e => e.AllTexts p
  | .both a b => a.AllTexts p ∧ b.AllTexts p
  | .sizeOf e => e.AllTexts p
  | .call f args => p f ∧ AllArgTexts p args
  | .onValue e m args => e.AllTexts p ∧ p m ∧ AllArgTexts p args
  | .onPointer e m args => e.AllTexts p ∧ p m ∧ AllArgTexts p args
  | .construct type args => p type ∧ AllArgTexts p args
  | .constructArray type count => p type ∧ count.AllTexts p

/-- Every text of arguments has a property. -/
def AllArgTexts (p : String → Prop) : List Expr → Prop
  | [] => True
  | e :: es => e.AllTexts p ∧ AllArgTexts p es

end

/-- Every text of a statement on one line has a property. -/
def Simple.AllTexts (p : String → Prop) : Simple → Prop
  | declare type name value => p type ∧ p name ∧ value.AllTexts p
  | assign target value => target.AllTexts p ∧ value.AllTexts p
  | increase target value => target.AllTexts p ∧ value.AllTexts p
  | run e => e.AllTexts p
  | free e => e.AllTexts p
  | freeArray e => e.AllTexts p
  | give e => e.AllTexts p

/-- Every text of a block has a property. -/
def Block.AllTexts (p : String → Prop) : Block → Prop
  | done => True
  | step s rest => s.AllTexts p ∧ rest.AllTexts p
  | .when c body rest => c.AllTexts p ∧ body.AllTexts p ∧ rest.AllTexts p
  | each n body rest => n.AllTexts p ∧ body.AllTexts p ∧ rest.AllTexts p

variable {p : String → Prop}

/-! ### Blocks -/

namespace Block

theorem allTexts_append_iff (b b' : Block) :
    (b ++ b').AllTexts p ↔ b.AllTexts p ∧ b'.AllTexts p := by
  change (b.append b').AllTexts p ↔ _
  induction b with
  | done => exact (iff_of_eq (true_and _)).symm
  | step s rest ih => simp only [append, AllTexts, ih, and_assoc]
  | «when» c body rest _ ih => simp only [append, AllTexts, ih, and_assoc]
  | each n body rest _ ih => simp only [append, AllTexts, ih, and_assoc]

theorem allTexts_ofList_iff (ss : List Simple) :
    (ofList ss).AllTexts p ↔ ∀ s ∈ ss, s.AllTexts p := by
  induction ss with
  | nil => simp [ofList, AllTexts]
  | cons s ss ih => simp only [ofList, AllTexts, ih, List.forall_mem_cons]

theorem allTexts_concat_map_iff {α : Type} (block : α → Block) (l : List α) :
    (concat (l.map block)).AllTexts p ↔ ∀ a ∈ l, (block a).AllTexts p := by
  induction l with
  | nil => simp [concat, AllTexts]
  | cons a l ih => simp only [List.map_cons, concat, allTexts_append_iff, ih, List.forall_mem_cons]

end Block

/-! ### Fields -/

attribute [simp] Expr.AllTexts AllArgTexts Simple.AllTexts Block.AllTexts
  Block.allTexts_append_iff Block.allTexts_ofList_iff Block.allTexts_concat_map_iff

/-- The words that the routines of all classes share. -/
def routineWords : List String :=
  ["serializer", "stream", "0", "len", "__len", "this", "true", "false", "unsigned char", "sizeOf",
   "read", "write", "deserialize", "serialize", "dispose", "Message::serialize"]

/-- The texts that are made from a field have a property. -/
structure FieldTexts (p : String → Prop) (f : PlannedField) : Prop where
  name : p f.name
  count : p (countName f.name)
  pointer : ∀ n, p (f.type.base ++ FieldType.stars n)

variable {f : PlannedField} {e : Expr}

theorem FieldTexts.base (h : FieldTexts p f) : p f.type.base := by
  have hbase := h.pointer 0
  rwa [show FieldType.stars 0 = "" from rfl, String.append_empty] at hbase

theorem FieldTexts.imp {q : String → Prop} (hpq : ∀ t, p t → q t) (h : FieldTexts p f) :
    FieldTexts q f :=
  ⟨hpq _ h.name, hpq _ h.count, fun n => hpq _ (h.pointer n)⟩

theorem FieldTexts.reference (h : FieldTexts p f) : p f.type.reference :=
  h.pointer f.type.depth

theorem allTexts_allocate {base : String} (hbase : p base)
    (hpointer : ∀ n, p (base ++ FieldType.stars n)) :
    (depth : Nat) → (allocate base depth).AllTexts p
  | 0 => ⟨hbase, trivial⟩
  | 1 => ⟨hbase, trivial⟩
  | depth + 2 => ⟨hpointer _, allTexts_allocate hbase hpointer (depth + 1), trivial⟩

theorem allTexts_through (he : e.AllTexts p) : (n : Nat) → (through e n).AllTexts p
  | 0 => he
  | n + 1 => allTexts_through he n

theorem allTexts_invoke {method : String} {args : List Expr} (he : e.AllTexts p)
    (hmethod : p method) (hargs : AllArgTexts p args) (depth : Nat) :
    (invoke e depth method args).AllTexts p := by
  cases depth with
  | zero => exact ⟨he, hmethod, hargs⟩
  | succ n => exact ⟨allTexts_through he n, hmethod, hargs⟩

theorem allTexts_release (he : e.AllTexts p) (depth : Nat) :
    ∀ s ∈ release e depth, s.AllTexts p := by
  induction depth with
  | zero => simp [release]
  | succ n ih =>
    rw [release, List.forall_mem_cons]
    exact ⟨allTexts_through he n, ih⟩

section Routines

variable (hwords : ∀ w ∈ routineWords, p w) (h : FieldTexts p f)

include hwords

theorem allTexts_failure (rollback : Bool) : (failure rollback).AllTexts p := by
  simp only [routineWords, List.forall_mem_cons] at hwords
  cases rollback <;> simp [failure, hwords]

theorem allTexts_deserializeCall (he : e.AllTexts p) (depth : Nat) :
    (deserializeCall e depth).AllTexts p := by
  simp only [routineWords, List.forall_mem_cons] at hwords
  exact allTexts_invoke he (by simp [hwords]) (by simp [serializer, hwords]) depth

theorem allTexts_serializeCall (he : e.AllTexts p) (depth : Nat) :
    (serializeCall e depth).AllTexts p := by
  simp only [routineWords, List.forall_mem_cons] at hwords
  exact allTexts_invoke he (by simp [hwords]) (by simp [serializer, stream, hwords]) depth

theorem allTexts_writeScalar (he : e.AllTexts p) : (writeScalar e).AllTexts p := by
  simp only [routineWords, List.forall_mem_cons] at hwords
  simp [writeScalar, serializer, stream, hwords, he]

include h

theorem allTexts_lengthOf : (lengthOf f).AllTexts p := by
  simp only [routineWords, List.forall_mem_cons] at hwords
  unfold lengthOf
  cases f.kind with
  | array => simp [serializer, target, countOf, hwords, h.name, h.count]
  | builtin => cases f.disposable <;> simp [serializer, target, hwords, h.name]
  | nested => simp [target, hwords, h.name]
  | pointer => simp [serializer, target, hwords, h.name]

theorem allTexts_readOf (rollback : Bool) : (readOf rollback f).AllTexts p := by
  have hfailure := allTexts_failure hwords rollback
  have htarget : (target f).AllTexts p := h.name
  have hitem : (itemOf f).AllTexts p := h.name
  have hcount : (countOf f).AllTexts p := h.count
  have hread := fun {e : Expr} => allTexts_deserializeCall hwords (e := e)
  have hallocate := allTexts_allocate h.base h.pointer f.type.depth
  simp only [routineWords, List.forall_mem_cons] at hwords
  unfold readOf
  cases f.kind with
  | builtin => simp [serializer, hwords, htarget, hfailure]
  | array =>
    by_cases hdepth : 0 < f.type.depth <;>
      simp [readCount, readItem, allocateAt, orFail, serializer, zero, hdepth, hwords, htarget,
        hitem, hcount, hfailure, hread, hallocate, h.reference]
  | pointer => simp [allocateAt, orFail, htarget, hallocate, hfailure, hread]
  | nested => simp [orFail, htarget, hfailure, hread]

theorem allTexts_writeOf : (writeOf f).AllTexts p := by
  have htarget : (target f).AllTexts p := h.name
  have hitem : (itemOf f).AllTexts p := h.name
  have hcount : (countOf f).AllTexts p := h.count
  unfold writeOf
  cases f.kind with
  | builtin => exact allTexts_writeScalar hwords htarget
  | array =>
    simp [allTexts_writeScalar hwords hcount, hcount, allTexts_serializeCall hwords hitem]
  | pointer => simp [allTexts_serializeCall hwords htarget]
  | nested => simp [allTexts_serializeCall hwords htarget]

theorem allTexts_disposeItem : (disposeItem f).AllTexts p := by
  have hitem : (itemOf f).AllTexts p := h.name
  have hdispose : (invoke (itemOf f) f.type.depth "dispose" []).AllTexts p :=
    allTexts_invoke hitem (hwords _ (by decide)) (by simp) f.type.depth
  unfold disposeItem
  by_cases hdepth : f.type.depth = 0
  · simp [hdepth, hdepth ▸ hdispose]
  · simpa [hdepth, whenSet, hitem, hdispose] using allTexts_release hitem f.type.depth

theorem allTexts_disposeOf : (disposeOf f).AllTexts p := by
  have htarget : (target f).AllTexts p := h.name
  have hcount : (countOf f).AllTexts p := h.count
  have hzero : zero.AllTexts p := hwords _ (by decide)
  have hrelease := allTexts_release htarget f.type.depth
  unfold disposeOf
  cases f.kind with
  | builtin =>
    have hfree : ∀ s ∈ if f.type.isArray then [.freeArray (target f)]
        else release (target f) f.type.depth, s.AllTexts p := by
      split_ifs
      · simpa using htarget
      · exact hrelease
    cases f.disposable with
    | false => trivial
    | true => simpa [whenSet, htarget, hzero, or_imp, forall_and] using hfree
  | nested => trivial
  | array => simp [whenSet, htarget, hcount, hzero, allTexts_disposeItem hwords h]
  | pointer => simpa [whenSet, htarget, hzero, or_imp, forall_and] using hrelease

end Routines

/-! ### Classes -/

/-- The texts that a field puts into a class have a property. -/
structure MemberTexts (p : String → Prop) (f : PlannedField) : Prop where
  texts : FieldTexts p f
  type : p (memberType f.type)

/-- The types and the names of the members of fields have a property. -/
theorem MemberTexts.members (hcount : p "unsigned char") {fields : List PlannedField}
    (h : ∀ f ∈ fields, MemberTexts p f) :
    ∀ m ∈ fields.flatMap members, p m.type ∧ p m.name := by
  intro m hm
  obtain ⟨f, hf, hm⟩ := List.mem_flatMap.1 hm
  obtain ⟨htexts, htype⟩ := h f hf
  unfold Header.members at hm
  cases hkind : f.kind with
  | array =>
    rw [hkind] at hm
    simp only [List.mem_cons, List.not_mem_nil, or_false] at hm
    obtain rfl | rfl := hm
    · exact ⟨htype, htexts.name⟩
    · exact ⟨hcount, htexts.count⟩
  | _ =>
    rw [hkind] at hm
    obtain rfl := List.mem_singleton.1 hm
    exact ⟨htype, htexts.name⟩

/-- The texts that a plan puts into classes have a property. -/
structure PlanTexts (p : String → Prop) (plan : Plan) : Prop where
  objects : ∀ o ∈ plan.objects, p o.name ∧ ∀ f ∈ o.fields, MemberTexts p f
  messages : ∀ m ∈ plan.messages, p m.name ∧ ∀ f ∈ m.fields, MemberTexts p f

/-- Every text in the routines of a class has a property that the words of all routines and the
texts of the fields have. -/
theorem allTexts_routines (hwords : ∀ w ∈ routineWords, p w) {fields : List PlannedField}
    (hfields : ∀ f ∈ fields, FieldTexts p f) (isMessage rollback : Bool) :
    ∀ r ∈ routines isMessage rollback fields, r.body.AllTexts p := by
  have hlength := fun f hf => allTexts_lengthOf hwords (hfields f hf)
  have hread := fun f hf => allTexts_readOf hwords (hfields f hf) rollback
  have hwrite := fun f hf => allTexts_writeOf hwords (hfields f hf)
  have hdispose := fun f hf => allTexts_disposeOf hwords (hfields f hf)
  simp only [routineWords, List.forall_mem_cons] at hwords
  simp only [routines, List.forall_mem_cons, List.not_mem_nil, false_implies, implies_true,
    and_true]
  refine ⟨?_, ?_, ?_, ?_⟩
  · simpa [lengthRoutine, zero, hwords] using hlength
  · simpa [deserializeRoutine, hwords] using hread
  · cases isMessage <;> simpa [serializeRoutine, serializer, stream, hwords] using hwrite
  · simpa [disposeRoutine] using hdispose

end WireSchema.Header
