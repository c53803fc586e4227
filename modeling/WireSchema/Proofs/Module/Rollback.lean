import WireSchema.Proofs.Holes
import WireSchema.Proofs.Module.Items

/-!
# Rollback in emitted Rust modules

With rollback a failed read disposes of the fields read so far before it ends the routine. In the
tokens of the routine that reads, the disposal is inserted directly before each failed end. Nothing
else in a module changes.

## Main definitions

* `Module.Block.exits`: the number of failed ends of a block.
* `Module.Block.withDisposal`: a block with a disposal before each failed end.
* `Module.InsertsDisposal`: tokens with a disposal before some failed ends, and the tokens without
  them.

## Main results

* `Module.Block.insertsDisposal_tokens`: the tokens of a block with disposals.
* `Module.withDisposal_deserialize`: the routine that reads, with rollback.
* `Module.hasHoles_fileItems`: the rest of a module does not depend on rollback.
-/

namespace WireSchema.Module

open Block

/-! ### Inserted tokens -/

/-- The tokens of a failed end. -/
def exitTokens : Tokens := tokens ["return", "false", ";"]

/-- The tokens that dispose of the fields read so far. -/
def disposalTokens : Tokens := tokens ["self", ".", "dispose"] ++ parens [] ++ [.word ";"]

/-- The tokens `on` are the tokens `off` with a disposal directly before `n` failed ends. -/
inductive InsertsDisposal : (n : Nat) → (off on : Tokens) → Prop
  | none (ts : Tokens) : InsertsDisposal 0 ts ts
  | exit (ts : Tokens) {n : Nat} {off on : Tokens} (h : InsertsDisposal n off on) :
    InsertsDisposal (n + 1) (ts ++ exitTokens ++ off) (ts ++ (disposalTokens ++ exitTokens) ++ on)

namespace InsertsDisposal

variable {m n : Nat} {off off' on on' : Tokens}

theorem prepend (ts : Tokens) (h : InsertsDisposal n off on) :
    InsertsDisposal n (ts ++ off) (ts ++ on) := by
  cases h with
  | none => exact none (ts ++ off)
  | exit ts' h =>
    simp only [← List.append_assoc ts]
    exact exit (ts ++ ts') h

theorem append (h : InsertsDisposal m off on) (h' : InsertsDisposal n off' on') :
    InsertsDisposal (m + n) (off ++ off') (on ++ on') := by
  induction h with
  | none ts =>
    rw [Nat.zero_add]
    exact h'.prepend ts
  | exit ts h ih =>
    rw [Nat.add_right_comm, List.append_assoc _ _ off', List.append_assoc _ _ on']
    exact exit ts ih

theorem braces (h : InsertsDisposal n off on) : InsertsDisposal n (braces off) (braces on) :=
  (h.prepend [.opener .brace]).append (none [.closer .brace])

/-- The failed ends cut the tokens into segments, which are the same with and without disposals. -/
theorem exists_segments (h : InsertsDisposal n off on) :
    ∃ segments : List Tokens, segments.length = n + 1 ∧ off = exitTokens.intercalate segments ∧
      on = (disposalTokens ++ exitTokens).intercalate segments := by
  induction h with
  | none ts => exact ⟨[ts], rfl, by simp, by simp⟩
  | exit ts h ih =>
    obtain ⟨segments, hlength, rfl, rfl⟩ := ih
    obtain ⟨segment, segments, rfl⟩ := List.exists_cons_of_length_eq_add_one hlength
    refine ⟨ts :: segment :: segments, by rw [List.length_cons, hlength], ?_, ?_⟩
    · rw [List.intercalate_cons_cons]
    · rw [List.intercalate_cons_cons]

end InsertsDisposal

/-! ### Blocks -/

/-- Is the expression a given word? -/
def Expr.isWord (text : String) : Expr → Bool
  | .name [.word s] => s == text
  | _ => false

theorem Expr.eq_of_isWord {e : Expr} {text : String} (h : e.isWord text = true) :
    e = word text := by
  unfold isWord at h
  split at h
  · rw [eq_of_beq h]
    rfl
  · cases h

namespace Block

/-- The number of failed ends of a block. -/
def exits : Block → Nat
  | .done => 0
  | .value _ => 0
  | .run _ rest => rest.exits
  | .assign _ _ rest => rest.exits
  | .bind _ _ rest => rest.exits
  | .bindPresent _ _ otherwise rest => otherwise.exits + rest.exits
  | .give e rest => (if e.isWord "false" then 1 else 0) + rest.exits
  | .when _ body rest => body.exits + rest.exits
  | .whenPresent _ _ body rest => body.exits + rest.exits
  | .each _ _ body rest => body.exits + rest.exits
  | .cases _ _ present absent rest => present.exits + absent.exits + rest.exits
  | .casesValue _ _ _ absent rest => absent.exits + rest.exits

/-- The block with a disposal before each failed end. -/
def withDisposal : Block → Block
  | done => done
  | value e => value e
  | run e rest => run e rest.withDisposal
  | assign t e rest => assign t e rest.withDisposal
  | bind p e rest => bind p e rest.withDisposal
  | bindPresent x e otherwise rest => bindPresent x e otherwise.withDisposal rest.withDisposal
  | give e rest =>
    if e.isWord "false" then run (.method (word "self") "dispose" []) (give e rest.withDisposal)
    else give e rest.withDisposal
  | .when c body rest => .when c body.withDisposal rest.withDisposal
  | whenPresent x e body rest => whenPresent x e body.withDisposal rest.withDisposal
  | each x e body rest => each x e body.withDisposal rest.withDisposal
  | cases e x present absent rest =>
    cases e x present.withDisposal absent.withDisposal rest.withDisposal
  | casesValue e x present absent rest =>
    casesValue e x present absent.withDisposal rest.withDisposal

theorem withDisposal_append (b b' : Block) :
    (b ++ b').withDisposal = b.withDisposal ++ b'.withDisposal := by
  change (b.append b').withDisposal = b.withDisposal.append b'.withDisposal
  induction b with
  | give e rest ih =>
    simp only [append, withDisposal, ih]
    split_ifs <;> rfl
  | _ => simp only [append, withDisposal, *]

/-- In the tokens of a block with disposals they stand before all failed ends of the block. -/
theorem insertsDisposal_tokens (b : Block) :
    InsertsDisposal b.exits b.tokens b.withDisposal.tokens := by
  induction b with
  | done => exact .none []
  | value e => exact .none e.tokens
  | run e rest ih => exact ih.prepend _
  | assign t e rest ih => exact ih.prepend _
  | bind p e rest ih => exact ih.prepend _
  | bindPresent x e otherwise rest ihotherwise ihrest =>
    exact ((ihotherwise.braces.prepend _).append (.none _)).append ihrest
  | give e rest ih =>
    cases hword : e.isWord "false" with
    | true =>
      obtain rfl := Expr.eq_of_isWord hword
      rw [exits, hword, if_pos rfl, Nat.add_comm]
      exact .exit [] ih
    | false =>
      rw [exits, withDisposal, hword, if_neg Bool.false_ne_true, if_neg Bool.false_ne_true,
        Nat.zero_add]
      exact ih.prepend _
  | «when» c body rest ihbody ihrest => exact (ihbody.braces.prepend _).append ihrest
  | whenPresent x e body rest ihbody ihrest => exact (ihbody.braces.prepend _).append ihrest
  | each x e body rest ihbody ihrest => exact (ihbody.braces.prepend _).append ihrest
  | cases e x present absent rest ihpresent ihabsent ihrest =>
    refine ((InsertsDisposal.braces ?_).prepend _).append ihrest
    exact (((ihpresent.braces.prepend _).append (.none _)).append (.none _)).append ihabsent.braces
  | casesValue e x present absent rest ihabsent ihrest =>
    exact ((ihabsent.braces.prepend _).braces.prepend _).append ihrest

end Block

/-! ### The routine that reads -/

theorem withDisposal_readOf (runtime : Tokens) (f : Field) :
    readOf runtime true f = (readOf runtime false f).withDisposal := by
  cases hkind : f.kind <;> simp only [readOf, hkind] <;> rfl

/-- The routine with rollback is the routine without it, with a disposal before each failed end. -/
theorem withDisposal_deserialize (runtime : Tokens) (fields : List Field) :
    (deserializeRoutine runtime true fields).body =
      (deserializeRoutine runtime false fields).body.withDisposal := by
  have hfields : concat (fields.map (readOf runtime true)) =
      (concat (fields.map (readOf runtime false))).withDisposal := by
    induction fields with
    | nil => rfl
    | cons f fields ih =>
      rw [List.map_cons, List.map_cons, concat, concat, withDisposal_append, ih,
        withDisposal_readOf]
  rw [deserializeRoutine, deserializeRoutine, withDisposal_append, hfields]
  rfl

theorem insertsDisposal_deserialize (runtime : Tokens) (fields : List Field) :
    InsertsDisposal (deserializeRoutine runtime false fields).body.exits
      (deserializeRoutine runtime false fields).tokens
      (deserializeRoutine runtime true fields).tokens := by
  have hbody := (deserializeRoutine runtime false fields).body.insertsDisposal_tokens
  rw [← withDisposal_deserialize] at hbody
  exact hbody.braces.prepend _

/-! ### The rest of a module -/

/-- The tokens of the routine that reads the fields of a struct. -/
def readTokens (runtime : Tokens) (rollback : Bool) (fields : List Field) : Tokens :=
  (deserializeRoutine runtime rollback fields).tokens

variable (runtime : Tokens)

theorem hasHoles_routines (isMessage : Bool) (fields : List Field) :
    HasHoles (readTokens runtime) [fields] fun rollback =>
      (routines runtime isMessage rollback fields).flatMap Routine.tokens :=
  (HasHoles.fixed _).append ((HasHoles.single fields).append (.fixed _))

theorem hasHoles_serializableItem (isMessage : Bool) (ident : String) (fields : List Field) :
    HasHoles (readTokens runtime) [fields] fun rollback =>
      (serializableItem runtime isMessage rollback ident fields).tokens := by
  have hmethods := (hasHoles_routines runtime isMessage fields).enclosed
    [.opener .brace] [.closer .brace]
  exact (HasHoles.fixed _).append ((HasHoles.fixed _).append hmethods)

theorem hasHoles_objectItems (o : ObjectItem) :
    HasHoles (readTokens runtime) [o.fields] fun rollback =>
      (objectItems runtime rollback o).flatMap Item.tokens :=
  (HasHoles.fixed _).append
    ((hasHoles_serializableItem runtime false o.ident o.fields).append (.fixed _))

theorem hasHoles_messageItems (m : MessageItem) :
    HasHoles (readTokens runtime) [m.fields] fun rollback =>
      (messageItems runtime rollback m).flatMap Item.tokens := by
  have hserializable := hasHoles_serializableItem runtime true m.ident m.fields
  -- the constant, the struct, its functions and its first value come before
  exact (HasHoles.fixed _).append ((HasHoles.fixed _).append ((HasHoles.fixed _).append
    ((HasHoles.fixed _).append (hserializable.append (.fixed _)))))

theorem hasHoles_fileItems (objects : List ObjectItem) (messages : List MessageItem)
    (factories : List String) :
    HasHoles (readTokens runtime) (objects.map (·.fields) ++ messages.map (·.fields))
      fun rollback => (fileItems runtime rollback objects messages factories).flatMap
        Item.tokens := by
  have hobjects := HasHoles.flatMap (hasHoles_objectItems runtime) objects
  have hmessages := HasHoles.flatMap (hasHoles_messageItems runtime) messages
  simp only [tokens_fileItems, ← List.flatMap_def]
  have hitems := (((HasHoles.fixed (traitImport runtime)).append hobjects).append hmessages).append
    (.fixed (registerItem runtime factories).tokens)
  rwa [List.nil_append, List.append_nil] at hitems

/-- The fields of the structs of a module in order. -/
def Parts.fields (x : Parts) : List (List Field) :=
  x.objects.map (·.fields) ++ x.messages.map (·.fields)

/-- The fields of a module are those of its plan. -/
theorem Parts.plans_of_make {g : Grammar} {s : ModuleSettings} {p : Plan} {x : Parts}
    (h : make g s p = .ok x) :
    x.fields.map (·.map (·.plan)) = p.objects.map (·.fields) ++ p.messages.map (·.fields) := by
  obtain ⟨-, hobjects, hmessages, -⟩ := make_eq_ok h
  rw [fields, List.map_append, List.map_map, List.map_map]
  refine congrArg₂ _ (map_eq_map_of_forall₂ (mapM_eq_ok_iff.1 hobjects) ?_).symm
    (map_eq_map_of_forall₂ (mapM_eq_ok_iff.1 hmessages) ?_).symm
  · exact fun o i hi => (mapM_make_eq_ok (ObjectItem.make_eq_ok hi).2).2.symm
  · exact fun m i hi => (mapM_make_eq_ok (MessageItem.make_eq_ok hi).2.2).2.symm

end WireSchema.Module
