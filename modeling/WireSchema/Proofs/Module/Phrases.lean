import Mathlib.Data.List.Basic
import Mathlib.Data.List.Count
import WireSchema.Module.Routine
import WireSchema.Proofs.Contract.Basic

/-!
# The tokens of emitted Rust routines

The four routines of a struct token by token. For every field a routine has a phrase that depends on
the kind of the field and mentions its identifier and the type that is read and written for it. The
blocks from which the routines are emitted are written as these tokens.

Each phrase stands for an action, so that the tokens of a routine say what it does with each field.
The routine that reads has a word `return` for every field and one more for every array.

## Main definitions

* `Module.Closed`: tokens that close what they open.
* `Module.lengthTokens`, `Module.readTokensOf`, `Module.writeTokens`, `Module.disposeTokens`: the
  phrase of a field in each routine.
* `Module.routineBodies`: the bodies of the four routines.
* `Module.phrasebook`: the phrases and the actions that they stand for.

## Main results

* `Module.tokens_lengthOf`, `Module.tokens_readOf`, `Module.tokens_writeOf`,
  `Module.tokens_disposeOf`: the blocks for a field are written as its phrases.
* `Module.takes_routineBodies`: the routines take the actions that the kinds of their fields ask
  for.
-/

namespace WireSchema.Module

open Block

/-! ### Phrases -/

/-- The field of the current object. -/
def place (f : Field) : Tokens := tokens ["self", ".", f.ident]

/-- The end of a failed read; with `rollback` after the fields read so far are disposed of. -/
def failureTokens (rollback : Bool) : Tokens :=
  (if rollback then tokens ["self", ".", "dispose"] ++ parens [] ++ tokens [";"] else []) ++
    tokens ["return", "false", ";"]

/-- The first value of a type. -/
def firstValue : Tokens := path ["core", "default", "Default", "default"] ++ parens []

/-- The call of a function of the runtime library for the scalars of a type. -/
def scalarCall (runtime type : Tokens) (function : String) (args : Tokens) : Tokens :=
  tokens ["<"] ++ type ++ tokens ["as"] ++ runtime ++
    tokens ["::", "Scalar", ">", "::", function] ++ parens args

/-- The addition of a size. -/
def addTokens (size : Tokens) : Tokens :=
  tokens ["len", "=", "len", ".", "wrapping_add"] ++ parens size ++ tokens [";"]

/-- The size of the type of a field. -/
def fixedSize (f : Field) : Tokens :=
  path ["core", "mem", "size_of"] ++ tokens ["::", "<"] ++ f.value.tokens ++ tokens [">"] ++
    parens [] ++ tokens ["as", "u8"]

/-- The size of a field, found at run time. -/
def dynamicSize (runtime : Tokens) (f : Field) : Tokens :=
  runtime ++ path ["Measure", "measure"] ++
    parens (tokens ["&"] ++ place f ++ tokens [",", "serializer"])

/-- The addition of the size of the type of a field. -/
def fixedLength (f : Field) : Tokens := addTokens (fixedSize f)

/-- The addition of the size of a field, found at run time. -/
def dynamicLength (runtime : Tokens) (f : Field) : Tokens := addTokens (dynamicSize runtime f)

/-- The read of a scalar, where it is not set yet. -/
def scalarRead (runtime : Tokens) (rollback : Bool) (f : Field) : Tokens :=
  tokens ["if"] ++ place f ++ tokens [".", "is_none"] ++ parens [] ++
    braces (tokens ["match"] ++ scalarCall runtime f.value.tokens "read" (tokens ["serializer"]) ++
      braces (optionCase "Some" ++ parens (tokens ["value"]) ++ tokens ["=>"] ++
          braces (place f ++ tokens ["="] ++ optionCase "Some" ++ parens (tokens ["value"]) ++
            tokens [";"]) ++
        optionCase "None" ++ tokens ["=>"] ++ braces (failureTokens rollback)))

/-- The read of a count and the creation of as many items, where there are none yet, and then the
read of all items in a loop. -/
def itemsRead (runtime : Tokens) (rollback : Bool) (f : Field) : Tokens :=
  tokens ["if"] ++ place f ++ tokens [".", "is_none"] ++ parens [] ++
    braces (tokens ["let"] ++ optionCase "Some" ++ parens (tokens ["count"]) ++ tokens ["="] ++
        scalarCall runtime (tokens ["u8"]) "read" (tokens ["serializer"]) ++ tokens ["else"] ++
        braces (failureTokens rollback) ++ tokens [";"] ++
      place f ++ tokens ["="] ++ optionCase "Some" ++
        parens (parens (tokens ["0", "..", "count"]) ++ tokens [".", "map"] ++
          parens (tokens ["|", "_", "|"] ++ firstValue) ++ tokens [".", "collect"] ++ parens [] ++
          tokens [","]) ++ tokens [";"]) ++
    tokens ["let", "count", "="] ++ place f ++ tokens [".", "as_ref"] ++ parens [] ++
      tokens [".", "map_or"] ++ parens (tokens ["0", ","] ++ path ["std", "vec", "Vec", "len"]) ++
      tokens [";"] ++
    tokens ["for", "i", "in", "0", "..", "count"] ++
    braces (tokens ["let", "ok", "="] ++ place f ++ tokens [".", "as_mut"] ++ parens [] ++
        tokens [".", "is_some_and"] ++
        parens (tokens ["|", "items", "|", "items"] ++ brackets (tokens ["i"]) ++
          tokens [".", "deserialize"] ++ parens (tokens ["serializer"])) ++ tokens [";"] ++
      tokens ["if", "!", "ok"] ++ braces (failureTokens rollback))

/-- The creation of a value, where there is none yet, and its read. -/
def pointerRead (rollback : Bool) (f : Field) : Tokens :=
  tokens ["let", "ok", "="] ++ place f ++ tokens [".", "get_or_insert_with"] ++
      parens (path ["core", "default", "Default", "default"]) ++ tokens [".", "deserialize"] ++
      parens (tokens ["serializer"]) ++ tokens [";"] ++
    tokens ["if", "!", "ok"] ++ braces (failureTokens rollback)

/-- The read of a nested value in place. -/
def nestedRead (rollback : Bool) (f : Field) : Tokens :=
  tokens ["if", "!"] ++ place f ++ tokens [".", "deserialize"] ++ parens (tokens ["serializer"]) ++
    braces (failureTokens rollback)

/-- The write of a value by its fields. -/
def serializeTokens : Tokens :=
  tokens [".", "serialize"] ++ parens (tokens ["serializer", ",", "stream"])

/-- The write of a scalar, by its first value where it is not set. -/
def scalarWrite (runtime : Tokens) (f : Field) : Tokens :=
  scalarCall runtime f.value.tokens "write"
      (place f ++ tokens [".", "as_ref"] ++ parens [] ++ tokens [".", "unwrap_or"] ++
        parens (tokens ["&"] ++ firstValue) ++ tokens [",", "serializer", ",", "stream", ","]) ++
    tokens [";"]

/-- The write of a count, and then of all items in a loop. -/
def itemsWrite (runtime : Tokens) (f : Field) : Tokens :=
  tokens ["match", "&"] ++ place f ++
    braces (optionCase "Some" ++ parens (tokens ["items"]) ++ tokens ["=>"] ++
        braces (tokens ["let", "count", "=", "u8", "::", "try_from"] ++
            parens (tokens ["items", ".", "len"] ++ parens []) ++ tokens [".", "unwrap_or"] ++
            parens (tokens ["u8", "::", "MAX"]) ++ tokens [";"] ++
          scalarCall runtime (tokens ["u8"]) "write"
            (tokens ["&", "count", ",", "serializer", ",", "stream"]) ++ tokens [";"] ++
          tokens ["for", "item", "in", "items", ".", "iter"] ++ parens [] ++
            tokens [".", "take"] ++
            parens (tokens ["usize", "::", "from"] ++ parens (tokens ["count"])) ++
            braces (tokens ["item"] ++ serializeTokens ++ tokens [";"])) ++
      optionCase "None" ++ tokens ["=>"] ++
        braces (scalarCall runtime (tokens ["u8"]) "write"
          (tokens ["&", "0", ",", "serializer", ",", "stream"]) ++ tokens [";"]))

/-- The write of a value that may be absent, by its first value where it is. -/
def pointerWrite (f : Field) : Tokens :=
  tokens ["match", "&"] ++ place f ++
    braces (optionCase "Some" ++ parens (tokens ["value"]) ++ tokens ["=>", "value"] ++
        serializeTokens ++ tokens [","] ++
      optionCase "None" ++ tokens ["=>"] ++
        braces (tokens ["let", "value", ":"] ++ f.value.tokens ++ tokens ["="] ++ firstValue ++
            tokens [";"] ++
          tokens ["value"] ++ serializeTokens ++ tokens [";"]))

/-- The write of a nested value in place. -/
def nestedWrite (f : Field) : Tokens :=
  place f ++ serializeTokens ++ tokens [";"]

/-- The end of a value that may be absent. -/
def valueRelease (f : Field) : Tokens :=
  place f ++ tokens ["="] ++ optionCase "None" ++ tokens [";"]

/-- The disposal of all items of an array, and the end of the array. -/
def itemsRelease (f : Field) : Tokens :=
  tokens ["if", "let"] ++ optionCase "Some" ++ parens (tokens ["items"]) ++ tokens ["="] ++
    place f ++ tokens [".", "as_mut"] ++ parens [] ++
    braces (tokens ["for", "item", "in", "items", ".", "iter_mut"] ++ parens [] ++
      braces (tokens ["item", ".", "dispose"] ++ parens [] ++ tokens [";"])) ++
    valueRelease f

/-! ### The phrase of a field -/

/-- The phrase of a field in the routine that measures. -/
def lengthTokens (runtime : Tokens) (f : Field) : Tokens :=
  match f.kind with
  | .array => dynamicLength runtime f
  | .builtin => if f.plan.disposable then dynamicLength runtime f else fixedLength f
  | .nested => fixedLength f
  | .pointer => dynamicLength runtime f

/-- The phrase of a field in the routine that reads. -/
def readTokensOf (runtime : Tokens) (rollback : Bool) (f : Field) : Tokens :=
  match f.kind with
  | .builtin => scalarRead runtime rollback f
  | .array => itemsRead runtime rollback f
  | .pointer => pointerRead rollback f
  | .nested => nestedRead rollback f

/-- The phrase of a field in the routine that writes. -/
def writeTokens (runtime : Tokens) (f : Field) : Tokens :=
  match f.kind with
  | .builtin => scalarWrite runtime f
  | .array => itemsWrite runtime f
  | .pointer => pointerWrite f
  | .nested => nestedWrite f

/-- The phrase of a field in the routine that disposes. -/
def disposeTokens (f : Field) : Tokens :=
  match f.kind with
  | .array => itemsRelease f
  | .builtin => if f.plan.disposable then valueRelease f else []
  | .nested => []
  | .pointer => valueRelease f

/-! ### The blocks for a field -/

section Blocks

variable (runtime : Tokens) (rollback : Bool) (f : Field)

attribute [local simp] Block.tokens Expr.tokens argTokens moreArgTokens Module.tokens word
  serializer stream

theorem tokens_target : (target f).tokens = place f := rfl

theorem tokens_failure : (failure rollback).tokens = failureTokens rollback := by
  cases rollback <;> rfl

theorem tokens_lengthOf : (lengthOf runtime f).tokens = lengthTokens runtime f := by
  unfold lengthOf lengthTokens
  cases f.kind with
  | builtin =>
    cases f.plan.disposable <;>
      simp [fixedLength, fixedSize, dynamicLength, dynamicSize, addTokens, runtimeName,
        tokens_target]
  | nested => simp [fixedLength, fixedSize, addTokens]
  | array | pointer => simp [dynamicLength, dynamicSize, addTokens, runtimeName, tokens_target]

theorem tokens_readOf : (readOf runtime rollback f).tokens = readTokensOf runtime rollback f := by
  unfold readOf readTokensOf
  cases f.kind with
  | builtin =>
    simp [scalarRead, isUnset, tokens_target, tokens_failure, readScalar, scalarFunction,
      scalarCall, runtimeName, path, present]
  | array =>
    simp [itemsRead, isUnset, tokens_target, tokens_failure, readScalar, scalarFunction,
      scalarCall, runtimeName, path, present, freshItems, defaultValue, defaultFunction, firstValue,
      orFail, deserializeCall]
  | pointer =>
    simp [pointerRead, tokens_target, tokens_failure, defaultFunction, orFail, deserializeCall]
  | nested => simp [nestedRead, tokens_target, tokens_failure, orFail, deserializeCall]

theorem tokens_writeOf : (writeOf runtime f).tokens = writeTokens runtime f := by
  unfold writeOf writeTokens
  cases f.kind with
  | builtin =>
    simp [scalarWrite, tokens_target, writeScalar, scalarFunction, scalarCall, runtimeName, path,
      defaultValue, defaultFunction, firstValue]
  | array =>
    simp [itemsWrite, tokens_target, writeScalar, scalarFunction, scalarCall, runtimeName, path,
      itemCount, countedItems, serializeCall, serializeTokens]
  | pointer =>
    simp [pointerWrite, tokens_target, serializeCall, serializeTokens, defaultValue,
      defaultFunction, firstValue]
  | nested => simp [nestedWrite, tokens_target, serializeCall, serializeTokens]

theorem tokens_unset : (unset f).tokens = valueRelease f := rfl

theorem tokens_disposeOf : (disposeOf f).tokens = disposeTokens f := by
  unfold disposeOf disposeTokens
  cases f.kind with
  | builtin => cases f.plan.disposable with
    | true => exact tokens_unset f
    | false => rfl
  | nested => rfl
  | array => simp [itemsRelease, tokens_target, tokens_unset]
  | pointer => exact tokens_unset f

end Blocks

/-! ### Blocks one after another -/

namespace Block

/-- Can statements follow the block? Nothing follows the value of a sequence. -/
def endsDone : Block → Bool
  | done => true
  | value _ => false
  | run _ rest => rest.endsDone
  | assign _ _ rest => rest.endsDone
  | bind _ _ rest => rest.endsDone
  | bindPresent _ _ _ rest => rest.endsDone
  | give _ rest => rest.endsDone
  | .when _ _ rest => rest.endsDone
  | whenPresent _ _ _ rest => rest.endsDone
  | each _ _ _ rest => rest.endsDone
  | .cases _ _ _ _ rest => rest.endsDone
  | casesValue _ _ _ _ rest => rest.endsDone

theorem tokens_append {b : Block} (h : b.endsDone = true) (b' : Block) :
    (b ++ b').tokens = b.tokens ++ b'.tokens := by
  change (b.append b').tokens = _
  induction b with
  | value e => cases h
  | _ => simp_all [append, tokens, endsDone]

theorem endsDone_append {b b' : Block} (h : b.endsDone = true) (h' : b'.endsDone = true) :
    (b ++ b').endsDone = true := by
  change (b.append b').endsDone = true
  induction b with
  | value e => cases h
  | _ => simp_all [append, endsDone]

theorem endsDone_concat {bs : List Block} (h : ∀ b ∈ bs, b.endsDone = true) :
    (concat bs).endsDone = true := by
  induction bs with
  | nil => rfl
  | cons b bs ih =>
    rw [List.forall_mem_cons] at h
    exact endsDone_append h.1 (ih h.2)

theorem tokens_concat {bs : List Block} (h : ∀ b ∈ bs, b.endsDone = true) :
    (concat bs).tokens = bs.flatMap tokens := by
  induction bs with
  | nil => rfl
  | cons b bs ih =>
    rw [List.forall_mem_cons] at h
    rw [concat, tokens_append h.1, ih h.2, List.flatMap_cons]

end Block

/-- The tokens for fields, where statements can follow those for each field. -/
theorem tokens_fields {block : Field → Block} {phrase : Field → Tokens}
    (hdone : ∀ f, (block f).endsDone = true) (h : ∀ f, (block f).tokens = phrase f)
    (fields : List Field) :
    (concat (fields.map block)).endsDone = true ∧
      (concat (fields.map block)).tokens = fields.flatMap phrase := by
  have hall : ∀ b ∈ fields.map block, b.endsDone = true := List.forall_mem_map.2 fun f _ => hdone f
  refine ⟨endsDone_concat hall, ?_⟩
  rw [tokens_concat hall, List.flatMap_map]
  exact List.flatMap_congr fun f _ => h f

section EndsDone

variable (runtime : Tokens) (rollback : Bool) (f : Field)

theorem endsDone_lengthOf : (lengthOf runtime f).endsDone = true := by
  unfold lengthOf
  cases f.kind with
  | builtin => cases f.plan.disposable <;> rfl
  | _ => rfl

theorem endsDone_readOf : (readOf runtime rollback f).endsDone = true := by
  unfold readOf
  cases f.kind <;> rfl

theorem endsDone_writeOf : (writeOf runtime f).endsDone = true := by
  unfold writeOf
  cases f.kind <;> rfl

theorem endsDone_disposeOf : (disposeOf f).endsDone = true := by
  unfold disposeOf
  cases f.kind with
  | builtin => cases f.plan.disposable <;> rfl
  | _ => rfl

end EndsDone

/-! ### The routines of a struct -/

/-- The write of what stands before the fields of a message. -/
def headerTokens (runtime : Tokens) : Tokens :=
  runtime ++ path ["Message", "serialize_header"] ++
    parens (tokens ["self", ",", "serializer", ",", "stream"]) ++ tokens [";"]

/-- The bodies of the four routines of a struct. -/
def routineBodies (runtime : Tokens) (isMessage rollback : Bool) (fields : List Field) :
    Bodies Token where
  length :=
    tokens ["let", "mut", "len", ":", "u8", "=", "0", ";"] ++
      fields.flatMap (lengthTokens runtime) ++ tokens ["len"]
  read := fields.flatMap (readTokensOf runtime rollback) ++ tokens ["true"]
  write :=
    (if isMessage then headerTokens runtime else []) ++ fields.flatMap (writeTokens runtime)
  dispose := fields.flatMap disposeTokens

/-- The tokens of the four routines with given bodies. -/
def bodyTokens (runtime : Tokens) (b : Bodies Token) : Tokens :=
  tokens ["fn", "length"] ++
      parens (tokens ["&", "self", ",", "serializer", ":", "&", "dyn"] ++ runtime ++
        path ["Serializer"]) ++
      tokens ["->", "u8"] ++ braces b.length ++
    tokens ["fn", "deserialize"] ++
      parens (tokens ["&", "mut", "self", ",", "serializer", ":", "&", "mut", "dyn"] ++ runtime ++
        path ["Serializer"]) ++
      tokens ["->", "bool"] ++ braces b.read ++
    tokens ["fn", "serialize"] ++
      parens (tokens ["&", "self", ",", "serializer", ":", "&", "mut", "dyn"] ++ runtime ++
        path ["Serializer"] ++ tokens [",", "stream", ":", "&", "mut", "dyn"] ++ runtime ++
        path ["Stream"]) ++
      braces b.write ++
    tokens ["fn", "dispose"] ++ parens (tokens ["&", "mut", "self"]) ++ braces b.dispose

section Routines

variable (runtime : Tokens) (isMessage rollback : Bool) (fields : List Field)

/-- The bodies of the routines of a struct are written as `routineBodies`. -/
theorem routineBodies_eq :
    routineBodies runtime isMessage rollback fields = {
      length := (lengthRoutine runtime fields).body.tokens
      read := (deserializeRoutine runtime rollback fields).body.tokens
      write := (serializeRoutine runtime isMessage fields).body.tokens
      dispose := (disposeRoutine fields).body.tokens } := by
  obtain ⟨hlengthDone, hlength⟩ :=
    tokens_fields (endsDone_lengthOf runtime) (tokens_lengthOf runtime) fields
  obtain ⟨hreadDone, hread⟩ :=
    tokens_fields (endsDone_readOf runtime rollback) (tokens_readOf runtime rollback) fields
  obtain ⟨-, hwrite⟩ := tokens_fields (endsDone_writeOf runtime) (tokens_writeOf runtime) fields
  obtain ⟨-, hdispose⟩ := tokens_fields endsDone_disposeOf tokens_disposeOf fields
  have hopening : (bind (tokens ["mut", "len", ":", "u8"]) (word "0") done).endsDone = true := rfl
  have hheaderDone : (if isMessage then headerOf runtime else done).endsDone = true := by
    cases isMessage <;> rfl
  have hheader : (if isMessage then headerOf runtime else done).tokens =
      if isMessage then headerTokens runtime else [] := by
    cases isMessage with
    | false => rfl
    | true =>
      simp [headerOf, headerTokens, Block.tokens, Expr.tokens, argTokens, moreArgTokens, word,
        tokens, serializer, stream, runtimeName]
  simp only [lengthRoutine, deserializeRoutine, serializeRoutine, disposeRoutine,
    tokens_append (endsDone_append hopening hlengthDone), tokens_append hopening,
    tokens_append hreadDone, tokens_append hheaderDone, hlength, hread, hwrite, hdispose, hheader]
  rfl

/-- The tokens of the routines of a struct. -/
theorem tokens_routines :
    (routines runtime isMessage rollback fields).flatMap Routine.tokens =
      bodyTokens runtime (routineBodies runtime isMessage rollback fields) := by
  rw [routineBodies_eq]
  simp [routines, Routine.tokens, bodyTokens, lengthRoutine, deserializeRoutine, serializeRoutine,
    disposeRoutine, runtimeName, tokens]

end Routines

/-! ### Actions -/

/-- The phrases of the routines of a struct, and the actions that they stand for. -/
def phrasebook (runtime : Tokens) (isMessage rollback : Bool) : Phrasebook Field Token where
  length := {
    opening := tokens ["let", "mut", "len", ":", "u8", "=", "0", ";"]
    phrases := fun f => [(fixedLength f, .fixed), (dynamicLength runtime f, .dynamic)]
    closing := [.word "len"] }
  read := {
    phrases := fun f =>
      [(scalarRead runtime rollback f, .guardedScalar),
       (itemsRead runtime rollback f, .countedItems),
       (pointerRead rollback f, .allocateThenRecurse), (nestedRead rollback f, .recurseInPlace)]
    closing := [.word "true"] }
  write := {
    opening := if isMessage then headerTokens runtime else []
    phrases := fun f =>
      [(scalarWrite runtime f, .scalar), (itemsWrite runtime f, .countedItems),
       (pointerWrite f, .recurse), (nestedWrite f, .recurse)] }
  dispose := {
    phrases := fun f =>
      [([], .nothing), (valueRelease f, .release), (itemsRelease f, .itemsThenRelease)] }

section Actions

variable (runtime : Tokens) (isMessage rollback : Bool)

theorem lengthTokens_mem (f : Field) :
    (lengthTokens runtime f, f.plan.actions.length) ∈
      (phrasebook runtime isMessage rollback).length.phrases f := by
  unfold lengthTokens Field.kind PlannedField.actions
  cases f.plan.kind with
  | builtin => cases f.plan.disposable <;> simp [phrasebook]
  | _ => simp [phrasebook]

theorem readTokensOf_mem (f : Field) :
    (readTokensOf runtime rollback f, f.plan.actions.read) ∈
      (phrasebook runtime isMessage rollback).read.phrases f := by
  unfold readTokensOf Field.kind PlannedField.actions
  cases f.plan.kind with
  | builtin => cases f.plan.disposable <;> simp [phrasebook]
  | _ => simp [phrasebook]

theorem writeTokens_mem (f : Field) :
    (writeTokens runtime f, f.plan.actions.write) ∈
      (phrasebook runtime isMessage rollback).write.phrases f := by
  unfold writeTokens Field.kind PlannedField.actions
  cases f.plan.kind with
  | builtin => cases f.plan.disposable <;> simp [phrasebook]
  | _ => simp [phrasebook]

theorem disposeTokens_mem (f : Field) :
    (disposeTokens f, f.plan.actions.dispose) ∈
      (phrasebook runtime isMessage rollback).dispose.phrases f := by
  unfold disposeTokens Field.kind PlannedField.actions
  cases f.plan.kind with
  | builtin => cases f.plan.disposable <;> simp [phrasebook]
  | _ => simp [phrasebook]

/-- The routines of a struct take the actions that the kinds of its fields ask for. -/
theorem takes_routineBodies (fields : List Field) :
    (phrasebook runtime isMessage rollback).Takes fields
      (routineBodies runtime isMessage rollback fields) (fields.map (·.plan.actions)) where
  length := by
    rw [List.map_map]
    exact Chapter.takes_flatMap fun f _ => lengthTokens_mem runtime isMessage rollback f
  read := by
    rw [List.map_map]
    exact Chapter.takes_flatMap fun f _ => readTokensOf_mem runtime isMessage rollback f
  write := by
    rw [List.map_map, ← List.append_nil (routineBodies runtime isMessage rollback fields).write]
    exact Chapter.takes_flatMap fun f _ => writeTokens_mem runtime isMessage rollback f
  dispose := by
    rw [List.map_map, ← List.append_nil (routineBodies runtime isMessage rollback fields).dispose]
    exact Chapter.takes_flatMap fun f _ => disposeTokens_mem runtime isMessage rollback f

end Actions

/-! ### Brackets -/

/-- Tokens that close what they open. -/
def Closed (ts : Tokens) : Prop :=
  ∀ opened, openAfter opened ts = some opened

theorem openAfter_append (opened : List Delimiter) (ts ts' : Tokens) :
    openAfter opened (ts ++ ts') = (openAfter opened ts).bind (openAfter · ts') := by
  induction ts generalizing opened with
  | nil => rfl
  | cons t ts ih =>
    cases t with
    | word s => exact ih opened
    | opener d => exact ih (d :: opened)
    | closer d =>
      cases opened with
      | nil => rfl
      | cons d' opened =>
        simp only [List.cons_append, openAfter]
        split_ifs
        · exact ih opened
        · rfl

/-- More open brackets around tokens stay open. -/
theorem openAfter_around {opened opened' : List Delimiter} {ts : Tokens}
    (h : openAfter opened ts = some opened') (around : List Delimiter) :
    openAfter (opened ++ around) ts = some (opened' ++ around) := by
  induction ts generalizing opened with
  | nil => rw [openAfter, ← Option.some.inj h]
  | cons t ts ih =>
    cases t with
    | word s => exact ih h
    | opener d =>
      have hopened : openAfter (d :: opened) ts = some opened' := h
      exact ih hopened
    | closer d =>
      cases opened with
      | nil => cases h
      | cons d' opened =>
        simp only [List.cons_append, openAfter] at h ⊢
        split_ifs at h with hd
        rw [if_pos hd]
        exact ih h

theorem Phrase.closed_tokens (p : Phrase) : Closed p.tokens :=
  fun opened => openAfter_around p.closed opened

theorem closed_nil : Closed [] := fun _ => rfl

theorem Closed.openAfter_append {ts : Tokens} (h : Closed ts) (opened : List Delimiter)
    (ts' : Tokens) : openAfter opened (ts ++ ts') = openAfter opened ts' := by
  rw [Module.openAfter_append, h opened, Option.bind_some]

theorem Closed.append {ts ts' : Tokens} (h : Closed ts) (h' : Closed ts') : Closed (ts ++ ts') :=
  fun opened => (h.openAfter_append opened ts').trans (h' opened)

theorem Closed.delimited {ts : Tokens} (h : Closed ts) (d : Delimiter) :
    Closed (delimited d ts) := by
  intro opened
  rw [Module.delimited, List.cons_append, openAfter, h.openAfter_append, openAfter, if_pos rfl]
  rfl

theorem closed_tokens (texts : List String) : Closed (tokens texts) := by
  induction texts with
  | nil => exact closed_nil
  | cons s texts ih => exact ih

theorem closed_flatMap {α : Type} {phrase : α → Tokens} {parts : List α}
    (h : ∀ a ∈ parts, Closed (phrase a)) : Closed (parts.flatMap phrase) := by
  induction parts with
  | nil => exact closed_nil
  | cons a parts ih =>
    rw [List.forall_mem_cons] at h
    exact h.1.append (ih h.2)

section Brackets

variable {runtime : Tokens} (hruntime : Closed runtime) {f : Field} (hvalue : Closed f.value.tokens)

theorem closed_failureTokens (rollback : Bool) : Closed (failureTokens rollback) := by
  cases rollback <;> exact fun opened => rfl

theorem closed_path (segments : List String) : Closed (path segments) :=
  closed_flatMap fun s _ => closed_tokens ["::", s]

theorem closed_addTokens {size : Tokens} (h : Closed size) : Closed (addTokens size) :=
  ((closed_tokens _).append (h.delimited .paren)).append (closed_tokens [";"])

theorem closed_fixedSize {f : Field} (hvalue : Closed f.value.tokens) : Closed (fixedSize f) :=
  (((((closed_path _).append (closed_tokens _)).append hvalue).append (closed_tokens [">"])).append
    (closed_nil.delimited .paren)).append (closed_tokens _)

theorem closed_dynamicSize {runtime : Tokens} (hruntime : Closed runtime) (f : Field) :
    Closed (dynamicSize runtime f) :=
  (hruntime.append (closed_path _)).append
    ((((closed_tokens _).append (closed_tokens _)).append (closed_tokens _)).delimited .paren)

include hruntime hvalue

theorem closed_lengthTokens : Closed (lengthTokens runtime f) := by
  have hfixed := closed_addTokens (closed_fixedSize hvalue)
  have hdynamic := closed_addTokens (closed_dynamicSize hruntime f)
  unfold lengthTokens
  cases f.kind with
  | builtin => cases f.plan.disposable <;> assumption
  | _ => assumption

theorem closed_readTokensOf (rollback : Bool) : Closed (readTokensOf runtime rollback f) := by
  have hfailure := closed_failureTokens rollback
  intro opened
  unfold readTokensOf
  cases f.kind with
  | builtin =>
    simp [scalarRead, scalarCall, tokens, path, parens, braces, Module.delimited, openAfter, place,
      optionCase, hruntime.openAfter_append, hvalue.openAfter_append, hfailure.openAfter_append]
  | array =>
    simp [itemsRead, scalarCall, tokens, path, parens, braces, brackets, Module.delimited,
      openAfter, place, optionCase, firstValue, hruntime.openAfter_append,
      hfailure.openAfter_append]
  | pointer =>
    simp [pointerRead, tokens, path, parens, braces, Module.delimited, openAfter, place,
      hfailure.openAfter_append]
  | nested =>
    simp [nestedRead, tokens, parens, braces, Module.delimited, openAfter, place,
      hfailure.openAfter_append]

theorem closed_writeTokens : Closed (writeTokens runtime f) := by
  intro opened
  unfold writeTokens
  cases f.kind with
  | builtin =>
    simp [scalarWrite, scalarCall, tokens, path, parens, Module.delimited, openAfter, place,
      firstValue, hruntime.openAfter_append, hvalue.openAfter_append]
  | array =>
    simp [itemsWrite, scalarCall, tokens, path, parens, braces, Module.delimited, openAfter, place,
      optionCase, serializeTokens, hruntime.openAfter_append]
  | pointer =>
    simp [pointerWrite, tokens, path, parens, braces, Module.delimited, openAfter, place,
      optionCase, serializeTokens, firstValue, hvalue.openAfter_append]
  | nested =>
    simp [nestedWrite, tokens, parens, Module.delimited, openAfter, place, serializeTokens]

omit hruntime hvalue

theorem closed_disposeTokens (f : Field) : Closed (disposeTokens f) := by
  intro opened
  unfold disposeTokens
  cases f.kind with
  | builtin => cases f.plan.disposable <;> rfl
  | _ => rfl

end Brackets

/-- The bodies of the routines of a struct close what they open. -/
theorem closed_routineBodies {runtime : Tokens} (hruntime : Closed runtime)
    (isMessage rollback : Bool) {fields : List Field}
    (hvalues : ∀ f ∈ fields, Closed f.value.tokens) :
    let b := routineBodies runtime isMessage rollback fields
    Closed b.length ∧ Closed b.read ∧ Closed b.write ∧ Closed b.dispose := by
  have hheader : Closed (if isMessage then headerTokens runtime else []) := by
    intro opened
    cases isMessage with
    | false => rfl
    | true =>
      simp [headerTokens, tokens, path, parens, delimited, openAfter, hruntime.openAfter_append]
  have hlength := closed_flatMap fun f hf => closed_lengthTokens hruntime (hvalues f hf)
  have hread := closed_flatMap fun f hf => closed_readTokensOf hruntime (hvalues f hf) rollback
  have hwrite := closed_flatMap fun f hf => closed_writeTokens hruntime (hvalues f hf)
  have hdispose := closed_flatMap fun f (_ : f ∈ fields) => closed_disposeTokens f
  exact ⟨((closed_tokens _).append hlength).append (closed_tokens ["len"]),
    hread.append (closed_tokens ["true"]), hheader.append hwrite, hdispose⟩

/-! ### Failed ends -/

/-- The word that ends a routine because a read has failed. -/
def exitWord : Token := .word "return"

theorem count_exitWord_tokens (texts : List String) :
    (tokens texts).count exitWord = texts.count "return" :=
  List.count_map_of_injective texts Token.word (fun _ _ => Token.word.inj) "return"

theorem count_exitWord_path (segments : List String) :
    (path segments).count exitWord = segments.count "return" := by
  induction segments with
  | nil => rfl
  | cons s segments ih =>
    have hhead : [Token.word "::", .word s].count exitWord = [s].count "return" :=
      (List.count_cons_of_ne (by decide)).trans (count_exitWord_tokens [s])
    rw [path, List.flatMap_cons, List.count_append, hhead, ← path, ih, ← List.count_append]
    rfl

theorem count_exitWord_delimited (d : Delimiter) (ts : Tokens) :
    (delimited d ts).count exitWord = ts.count exitWord := by
  have hopener : Token.opener d ≠ exitWord := Token.noConfusion
  have hcloser : [Token.closer d].count exitWord = 0 := rfl
  rw [delimited, List.cons_append, List.count_cons_of_ne hopener, List.count_append, hcloser,
    Nat.add_zero]

theorem count_exitWord_place {f : Field} (hident : f.ident ≠ "return") :
    (place f).count exitWord = 0 := by
  rw [place, count_exitWord_tokens, List.count_eq_zero]
  simpa using hident.symm

theorem count_exitWord_failureTokens (rollback : Bool) :
    (failureTokens rollback).count exitWord = 1 := by
  cases rollback <;> rfl

/-- The read of a field has one failed end, and one more for the count of an array. -/
theorem count_exitWord_readTokensOf {runtime : Tokens} (hruntime : exitWord ∉ runtime)
    (rollback : Bool) {f : Field} (hident : f.ident ≠ "return")
    (hvalue : f.plan.kind = .builtin → exitWord ∉ f.value.tokens) :
    (readTokensOf runtime rollback f).count exitWord = if f.plan.kind = .array then 2 else 1 := by
  have hruntime' : runtime.count exitWord = 0 := List.count_eq_zero.2 hruntime
  have hplace := count_exitWord_place hident
  unfold readTokensOf Field.kind
  cases hkind : f.plan.kind with
  | builtin =>
    have hvalue' : f.value.tokens.count exitWord = 0 := List.count_eq_zero.2 (hvalue hkind)
    simp only [scalarRead, scalarCall, parens, braces, optionCase, List.count_append,
      count_exitWord_tokens, count_exitWord_path, count_exitWord_delimited, hplace, hruntime',
      hvalue', count_exitWord_failureTokens]
    rfl
  | array =>
    simp only [itemsRead, scalarCall, parens, braces, brackets, optionCase, firstValue,
      List.count_append, count_exitWord_tokens, count_exitWord_path, count_exitWord_delimited,
      hplace, hruntime', count_exitWord_failureTokens]
    rfl
  | pointer =>
    simp only [pointerRead, parens, braces, List.count_append, count_exitWord_tokens,
      count_exitWord_path, count_exitWord_delimited, hplace, count_exitWord_failureTokens]
    rfl
  | nested =>
    simp only [nestedRead, parens, braces, List.count_append, count_exitWord_tokens,
      count_exitWord_delimited, hplace, count_exitWord_failureTokens]
    rfl

/-- The routine that reads the fields has one failed end for each field and one more for the count
of each array. -/
theorem count_exitWord_routineBodies {runtime : Tokens} (hruntime : exitWord ∉ runtime)
    (isMessage rollback : Bool) {fields : List Field}
    (hident : ∀ f ∈ fields, f.ident ≠ "return")
    (hvalue : ∀ f ∈ fields, f.plan.kind = .builtin → exitWord ∉ f.value.tokens) :
    (routineBodies runtime isMessage rollback fields).read.count exitWord =
      failureExits (fields.map (·.plan)) := by
  have hfields : (fields.flatMap (readTokensOf runtime rollback)).count exitWord =
      failureExits (fields.map (·.plan)) := by
    induction fields with
    | nil => rfl
    | cons f fields ih =>
      rw [List.forall_mem_cons] at hident hvalue
      rw [List.flatMap_cons, List.count_append,
        count_exitWord_readTokensOf hruntime rollback hident.1 hvalue.1, ih hident.2 hvalue.2,
        List.map_cons, failureExits_cons]
  rw [routineBodies, List.count_append, hfields]
  rfl

end WireSchema.Module
