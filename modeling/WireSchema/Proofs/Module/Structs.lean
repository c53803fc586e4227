import Mathlib.Data.List.Forall2
import WireSchema.Proofs.Module.Items
import WireSchema.Proofs.Module.Unambiguous

/-!
# Reading an emitted Rust module

The structs that are known on the wire are read from the tokens of a module, with the literals of
their tags and versions and the bodies of their routines, and so are the factories that are added to
a registry. A reader goes through the items of a module in order; what stands between brackets is
found by the bracket that closes it.

The path of the runtime library can be any tokens that close what they open, so a reader has to know
it. What is read are the contracts of the plan from which the module was emitted, in order.

## Main definitions

* `Module.Reader`, `Module.Consumes`: readers of tokens, and what they take from the front of them.
* `Module.readObject`, `Module.readMessage`, `Module.readRegistration`: the items of a module.
* `Module.readModule?`: the structs and the registered factories of a module.
* `Module.Renders`: a struct renders a contract.

## Main results

* `Module.consumes_group`: what stands between brackets is read to its end.
* `Module.readModule?_items`: the structs of a module render the contracts of its plan.
-/

namespace WireSchema.Module

/-! ### Readers -/

/-- A reader takes tokens from the front and leaves the rest. -/
abbrev Reader (α : Type) : Type :=
  StateT Tokens Option α

namespace Reader

variable {α β : Type}

/-- Take given tokens. -/
def expect (ts : Tokens) : Reader Unit := fun input =>
  (ts.isPrefixOf? input).map fun rest => ((), rest)

/-- Take a word. -/
def name : Reader String
  | .word s :: rest => some (s, rest)
  | _ => none

/-- What stands before the bracket that closes the outermost of the open brackets, and what stands
behind it. -/
def closeGroup : (opened : List Delimiter) → Tokens → Option (Tokens × Tokens)
  | _, [] => none
  | opened, .word s :: ts => (closeGroup opened ts).map (Prod.map (.word s :: ·) id)
  | opened, .opener d :: ts => (closeGroup (d :: opened) ts).map (Prod.map (.opener d :: ·) id)
  | [], .closer _ :: _ => none
  | [d'], .closer d :: ts => if d = d' then some ([], ts) else none
  | d' :: around :: opened, .closer d :: ts =>
    if d = d' then (closeGroup (around :: opened) ts).map (Prod.map (.closer d :: ·) id) else none

/-- Take what stands between brackets. -/
def group (d : Delimiter) : Reader Tokens
  | .opener d' :: ts => if d = d' then closeGroup [d] ts else none
  | _ => none

/-- Take what stands between brackets, where it is read to its end. -/
def within (d : Delimiter) (r : Reader α) : Reader α := fun input => do
  let (inner, rest) ← group d input
  match r inner with
  | some (a, []) => some (a, rest)
  | _ => none

/-- Take the same again and again, as long as there is some. -/
def many (r : Reader α) (input : Tokens) : Option (List α × Tokens) :=
  match r input with
  | none => some ([], input)
  | some (a, rest) =>
    if rest.length < input.length then (many r rest).map (Prod.map (a :: ·) id)
    else some ([], input)
termination_by input.length

/-- Take all that is left. -/
def skip : Reader Unit := fun _ => some ((), [])

end Reader

open Reader

/-! ### What readers take -/

section Consumes

variable {α β : Type} {r : Reader α} {k : α → Reader β} {ts ts' : Tokens} {a : α} {b : β}

/-- The reader takes exactly these tokens from the front, whatever follows them. -/
def Consumes (r : Reader α) (ts : Tokens) (a : α) : Prop :=
  ∀ rest, r (ts ++ rest) = some (a, rest)

theorem Consumes.congr (h : Consumes r ts a) (heq : ts' = ts) : Consumes r ts' a := heq ▸ h

theorem consumes_pure (a : α) : Consumes (pure a) [] a := fun _ => rfl

theorem bind_of_eq_some {input rest : Tokens} (h : r input = some (a, rest)) :
    (r >>= k) input = k a rest := by
  change (r input).bind (fun p => k p.1 p.2) = _
  rw [h, Option.bind_some]

/-- One reader after another. -/
theorem Consumes.bind (h : Consumes r ts a) (h' : Consumes (k a) ts' b) :
    Consumes (r >>= k) (ts ++ ts') b := by
  intro rest
  rw [List.append_assoc, bind_of_eq_some (h _)]
  exact h' rest

/-- One reader after another, where the second reads to the end. -/
theorem Consumes.bind_end (h : Consumes r ts a) (h' : k a ts' = some (b, [])) :
    (r >>= k) (ts ++ ts') = some (b, []) :=
  (bind_of_eq_some (h ts')).trans h'

theorem Consumes.eq_some (h : Consumes r ts a) : r ts = some (a, []) := by
  rw [← h [], List.append_nil]

theorem consumes_expect (ts : Tokens) : Consumes (expect ts) ts () := by
  intro rest
  rw [expect, List.isPrefixOf?_eq_some_iff_append_eq.2 rfl]
  rfl

theorem consumes_name (s : String) : Consumes name [.word s] s := fun _ => rfl

/-- The bracket that closes the outermost open bracket is found. -/
theorem closeGroup_append {opened : List Delimiter} {d : Delimiter} {ts : Tokens}
    (h : openAfter opened ts = some []) (rest : Tokens) :
    closeGroup (opened ++ [d]) (ts ++ .closer d :: rest) = some (ts, rest) := by
  induction ts generalizing opened with
  | nil =>
    obtain rfl : opened = [] := Option.some.inj h
    rw [List.nil_append, List.nil_append, closeGroup, if_pos rfl]
  | cons t ts ih =>
    cases t with
    | word s => rw [List.cons_append, closeGroup, ih h, Option.map_some, Prod.map_apply, id]
    | opener d' =>
      have hopened : closeGroup (d' :: (opened ++ [d])) (ts ++ .closer d :: rest) =
          some (ts, rest) := ih h
      rw [List.cons_append, closeGroup, hopened, Option.map_some, Prod.map_apply, id]
    | closer d' =>
      cases opened with
      | nil => cases h
      | cons e opened =>
        rw [openAfter] at h
        split_ifs at h with hd
        obtain ⟨around, opened', hopened⟩ :
            ∃ around opened', opened ++ [d] = around :: opened' := by
          cases opened with
          | nil => exact ⟨d, [], rfl⟩
          | cons e opened => exact ⟨e, opened ++ [d], rfl⟩
        have hrest := ih h
        rw [hopened] at hrest
        rw [List.cons_append, List.cons_append, hopened, closeGroup, if_pos hd, hrest,
          Option.map_some, Prod.map_apply, id]

/-- What stands between brackets is read to its end. -/
theorem consumes_group (d : Delimiter) (h : Closed ts) :
    Consumes (group d) (delimited d ts) ts := by
  intro rest
  have hclose := closeGroup_append (d := d) (h []) rest
  rw [delimited, List.cons_append, List.cons_append, List.append_assoc, group, if_pos rfl]
  exact hclose

theorem consumes_within (d : Delimiter) (hclosed : Closed ts) (h : r ts = some (a, [])) :
    Consumes (within d r) (delimited d ts) a := by
  intro rest
  simp only [within, consumes_group d hclosed rest, Option.bind_eq_bind, Option.bind_some, h]

/-- Parts of the same form are read one after another, up to what has another form. -/
theorem many_flatMap {γ : Type} {part : γ → Tokens} {read : γ → α} (parts : List γ)
    (h : ∀ c ∈ parts, Consumes r (part c) (read c)) (hne : ∀ c, part c ≠ []) {rest : Tokens}
    (hrest : r rest = none) :
    many r (parts.flatMap part ++ rest) = some (parts.map read, rest) := by
  induction parts with
  | nil =>
    rw [List.flatMap_nil, List.nil_append, many.eq_def, hrest]
    rfl
  | cons c parts ih =>
    rw [List.forall_mem_cons] at h
    have hlength : (parts.flatMap part ++ rest).length <
        (part c ++ (parts.flatMap part ++ rest)).length := by
      have hpos := List.length_pos_iff.2 (hne c)
      simp only [List.length_append]
      omega
    rw [List.flatMap_cons, List.append_assoc, many.eq_def, h.1]
    simp only [if_pos hlength, ih h.2]
    rfl

end Consumes

/-! ### Items -/

/-- The beginning of the implementation of a trait. -/
def implHead (name : Tokens) (ident : String) : Tokens :=
  .word "impl" :: name ++ tokens ["for", ident]

/-- The body of the method with a name and a result. -/
def readMethod (method : String) (result : Tokens) : Reader Tokens := do
  expect (tokens ["fn", method])
  let _ ← group .paren
  expect result
  group .brace

/-- The bodies of the four routines. -/
def readMethods : Reader (Bodies Token) := do
  let length ← readMethod "length" (tokens ["->", "u8"])
  let read ← readMethod "deserialize" (tokens ["->", "bool"])
  let write ← readMethod "serialize" []
  let dispose ← readMethod "dispose" []
  return ⟨length, read, write, dispose⟩

/-- The implementation of the four routines. -/
def readSerializable (runtime : Tokens) (ident : String) : Reader (Bodies Token) := do
  expect (listAttr "allow" ["unused_mut", "unused_variables"])
  expect (implHead (runtime ++ path ["Serializable"]) ident)
  within .brace readMethods

/-- The identifier of a public struct with members. -/
def readStruct (derived : List String) : Reader String := do
  expect (listAttr "derive" derived)
  expect (tokens ["pub", "struct"])
  let ident ← name
  let _ ← group .brace
  return ident

/-- The struct of an object. -/
def readObject (runtime : Tokens) : Reader (WireType (Bodies Token)) := do
  let ident ← readStruct ["Debug", "Default"]
  let bodies ← readSerializable runtime ident
  return ⟨ident, none, bodies⟩

/-- The literal of the version that a struct is made with. -/
def readVersion : Reader String := do
  expect (tokens ["pub", "const", "VERSION", ":", "u8", "="])
  let literal ← name
  skip
  return literal

/-- The methods of a message: its tag is the constant with a given name. -/
def readTagMethod (constant : String) : Reader Unit := do
  expect (tokens ["fn", "type_id"])
  expect (parens (tokens ["&", "self"]))
  expect (tokens ["->", "u8"])
  expect (braces [.word constant])
  skip

/-- The factory of a message. -/
def readFactory (runtime : Tokens) (constant : String) : Reader String := do
  expect (listAttr "derive" ["Clone", "Copy", "Debug", "Default"])
  expect (tokens ["pub", "struct"])
  let factory ← name
  expect [.word ";"]
  expect (implHead (runtime ++ path ["MessageFactory"]) factory)
  within .brace (readTagMethod constant)
  return factory

/-- The constant, the struct and the factory of a message. The literal of the constant is the tag of
the message, because the struct and the factory name the constant. -/
def readMessage (runtime : Tokens) : Reader (WireType (Bodies Token)) := do
  expect (tokens ["pub", "const"])
  let constant ← name
  expect (tokens [":", "u8", "="])
  let tag ← name
  expect [.word ";"]
  let ident ← readStruct ["Debug"]
  expect (tokens ["impl", ident])
  let version ← within .brace readVersion
  expect (implHead (path ["core", "default", "Default"]) ident)
  let _ ← group .brace
  let bodies ← readSerializable runtime ident
  expect (implHead (runtime ++ path ["Message"]) ident)
  within .brace (readTagMethod constant)
  let _ ← readFactory runtime constant
  return ⟨ident, some (tag, version), bodies⟩

/-- The factory that a statement adds to a registry. -/
def readAdded (runtime : Tokens) : Reader String := do
  expect (runtime ++ path ["FactoryRegistry", "add_factory"])
  expect (.opener .paren :: tokens ["registry", ","])
  expect (path ["std", "boxed", "Box", "new"] ++ [.opener .paren])
  let factory ← name
  expect [.closer .paren, .word ",", .closer .paren, .word ";"]
  return factory

/-- The factories that are added to a registry, in order. -/
def readRegistration (runtime : Tokens) : Reader (List String) := do
  expect (attr (tokens ["doc", "=", "r\" Add one factory per message, in declaration order.\""]))
  expect (listAttr "allow" ["unused_variables"])
  expect (tokens ["pub", "fn", "register"])
  let _ ← group .paren
  within .brace (many (readAdded runtime))

/-- The structs of a module that are known on the wire, objects before messages, and the factories
that it registers. -/
def readItems (runtime : Tokens) : Reader (List (WireType (Bodies Token)) × List String) := do
  expect (traitImport runtime)
  let objects ← many (readObject runtime)
  let messages ← many (readMessage runtime)
  let factories ← readRegistration runtime
  return (objects ++ messages, factories)

/-- The structs and the registered factories of a module with a given runtime library. -/
def readModule? (runtime ts : Tokens) : Option (List (WireType (Bodies Token)) × List String) :=
  match readItems runtime ts with
  | some (a, []) => some a
  | _ => none

/-! ### Fields -/

theorem closed_boxes {t : TypeTerm} (h : Closed t.tokens) (n : Nat) :
    Closed (t.boxes n).tokens := by
  induction n with
  | zero => exact h
  | succ n ih =>
    intro opened
    simp [TypeTerm.boxes, TypeTerm.tokens, path, openAfter, ih.openAfter_append]

theorem closed_scalarType (s : Scalar) : Closed (scalarType s) := by
  intro opened
  cases s <;> rfl

theorem exitWord_notMem_boxes {t : TypeTerm} (h : exitWord ∉ t.tokens) (n : Nat) :
    exitWord ∉ (t.boxes n).tokens := by
  induction n with
  | zero => exact h
  | succ n ih => simp [TypeTerm.boxes, TypeTerm.tokens, path, exitWord] at ih ⊢; exact ih

theorem exists_of_builtinType {f : PlannedField} {ts : Tokens} (h : builtinType f = .ok ts) :
    ∃ s, ts = scalarType s := by
  have hnamed : ∀ {name : String} {ts : Tokens}, scalarNamed? name = some ts →
      ∃ s, ts = scalarType s := by
    intro name ts hts
    obtain ⟨s, -, rfl⟩ := Option.map_eq_some_iff.1 hts
    exact ⟨s, rfl⟩
  unfold builtinType at h
  split at h
  · rename_i hts
    cases h
    exact hnamed hts
  · split at h
    · rename_i hts
      cases h
      exact hnamed hts
    · cases h

theorem closed_of_nestedType {g : Grammar} {f : PlannedField} {ts : Tokens}
    (h : nestedType g f = .ok ts) : Closed ts := by
  unfold nestedType at h
  split at h
  · rename_i phrase _
    cases h
    exact phrase.closed_tokens
  · cases h

/-- What holds for the identifier and the types of each field. -/
structure Field.IsMade (f : Field) : Prop where
  closed_type : Closed f.type.tokens
  closed_value : Closed f.value.tokens
  ident_ne : f.ident ≠ "return"
  exitWord_notMem : f.plan.kind = .builtin → exitWord ∉ f.value.tokens

theorem ne_return_of_identifier {name ident : String} (h : identifier name = .ok ident) :
    ident ≠ "return" := by
  have hplain : ∀ {text : String}, plainIdentifier? text = some ident → ident ≠ "return" := by
    intro text htext
    unfold plainIdentifier? at htext
    split at htext
    · split_ifs at htext with hkeyword
      rintro rfl
      obtain rfl := Option.some.inj htext
      exact hkeyword (by decide)
    · cases htext
  unfold identifier at h
  split at h
  · rename_i hident
    cases h
    unfold identifier? at hident
    split at hident
    · rename_i hword
      exact hplain (hword.trans hident)
    · exact hplain hident
  · cases h

theorem Field.isMade {g : Grammar} {p : PlannedField} {f : Field} (h : Field.make g p = .ok f) :
    f.IsMade := by
  unfold Field.make at h
  obtain ⟨ident, hident, h⟩ := bind_eq_ok_iff.1 h
  obtain ⟨⟨type, value⟩, htypes, h⟩ := bind_eq_ok_iff.1 h
  cases h
  have hne := ne_return_of_identifier hident
  unfold fieldTypes at htypes
  cases hkind : p.kind with
  | builtin =>
    simp only [hkind] at htypes
    obtain ⟨scalar, hscalar, htypes⟩ := bind_eq_ok_iff.1 htypes
    cases htypes
    obtain ⟨s, rfl⟩ := exists_of_builtinType hscalar
    have hshaped : Closed (if p.type.isArray then TypeTerm.list (.leaf (scalarType s))
        else .leaf (scalarType s)).tokens := by
      intro opened
      cases p.type.isArray <;>
        simp [TypeTerm.tokens, listType, path, openAfter, (closed_scalarType s).openAfter_append,
          closed_scalarType s opened]
    have hvalue := closed_boxes hshaped p.type.depth
    refine ⟨fun opened => ?_, hvalue, hne, fun _ => exitWord_notMem_boxes ?_ _⟩
    · simp [TypeTerm.tokens, optionalType, path, openAfter, hvalue.openAfter_append]
    · cases p.type.isArray <;> cases s <;> decide
  | array =>
    simp only [hkind] at htypes
    obtain ⟨nested, hnested, htypes⟩ := bind_eq_ok_iff.1 htypes
    cases htypes
    have hvalue := closed_boxes (t := .leaf nested) (closed_of_nestedType hnested) p.type.depth
    refine ⟨fun opened => ?_, hvalue, hne, fun hbuiltin => ?_⟩
    · simp [TypeTerm.tokens, optionalType, listType, path, openAfter, hvalue.openAfter_append]
    · rw [hkind] at hbuiltin
      cases hbuiltin
  | pointer =>
    simp only [hkind] at htypes
    obtain ⟨nested, hnested, htypes⟩ := bind_eq_ok_iff.1 htypes
    cases htypes
    have hvalue := closed_boxes (t := .leaf nested) (closed_of_nestedType hnested) p.type.depth
    refine ⟨fun opened => ?_, hvalue, hne, fun hbuiltin => ?_⟩
    · simp [TypeTerm.tokens, optionalType, path, openAfter, hvalue.openAfter_append]
    · rw [hkind] at hbuiltin
      cases hbuiltin
  | nested =>
    simp only [hkind] at htypes
    obtain ⟨nested, hnested, htypes⟩ := bind_eq_ok_iff.1 htypes
    cases htypes
    refine ⟨closed_of_nestedType hnested, closed_of_nestedType hnested, hne, fun hbuiltin => ?_⟩
    rw [hkind] at hbuiltin
    cases hbuiltin

/-! ### What the items of a module show -/

section Items

variable {runtime : Tokens} (hruntime : Closed runtime)

theorem consumes_readMethod (method : String) {parameters body : Tokens} (result : Tokens)
    (hparameters : Closed parameters) (hbody : Closed body) :
    Consumes (readMethod method result)
      (tokens ["fn", method] ++ (parens parameters ++ (result ++ braces body))) body :=
  (consumes_expect _).bind ((consumes_group .paren hparameters).bind
    ((consumes_expect _).bind (consumes_group .brace hbody)))

include hruntime

/-- The four routines show their bodies. -/
theorem consumes_readMethods {b : Bodies Token}
    (hb : Closed b.length ∧ Closed b.read ∧ Closed b.write ∧ Closed b.dispose) :
    Consumes readMethods (bodyTokens runtime b) b := by
  obtain ⟨hlength, hread, hwrite, hdispose⟩ := hb
  have hserializer : ∀ texts, Closed (tokens texts ++ (runtime ++ path ["Serializer"])) :=
    fun texts => (closed_tokens texts).append (hruntime.append (closed_tokens ["::", "Serializer"]))
  have hstream : Closed (tokens ["&", "self", ",", "serializer", ":", "&", "mut", "dyn"] ++
      (runtime ++ path ["Serializer"]) ++ (tokens [",", "stream", ":", "&", "mut", "dyn"] ++
      (runtime ++ path ["Stream"]))) :=
    (hserializer _).append
      ((closed_tokens _).append (hruntime.append (closed_tokens ["::", "Stream"])))
  refine Consumes.congr
    ((consumes_readMethod "length" _
        (hserializer ["&", "self", ",", "serializer", ":", "&", "dyn"]) hlength).bind
      ((consumes_readMethod "deserialize" _
          (hserializer ["&", "mut", "self", ",", "serializer", ":", "&", "mut", "dyn"]) hread).bind
        ((consumes_readMethod "serialize" _ hstream hwrite).bind
          ((consumes_readMethod "dispose" _ (closed_tokens ["&", "mut", "self"]) hdispose).bind
            (consumes_pure b))))) ?_
  simp only [bodyTokens, List.append_assoc, List.append_nil, List.nil_append]

theorem consumes_readSerializable (isMessage rollback : Bool) (ident : String)
    {fields : List Field} (hfields : ∀ f ∈ fields, f.IsMade) :
    Consumes (readSerializable runtime ident)
      (serializableItem runtime isMessage rollback ident fields).tokens
      (routineBodies runtime isMessage rollback fields) := by
  have hbodies := closed_routineBodies hruntime isMessage rollback
    fun f hf => (hfields f hf).closed_value
  have hmethods := consumes_readMethods hruntime hbodies
  have hclosed : Closed (bodyTokens runtime (routineBodies runtime isMessage rollback fields)) := by
    intro opened
    obtain ⟨hlength, hread, hwrite, hdispose⟩ := hbodies
    simp [bodyTokens, tokens, path, parens, braces, delimited, openAfter,
      hruntime.openAfter_append, hlength.openAfter_append, hread.openAfter_append,
      hwrite.openAfter_append, hdispose.openAfter_append]
  refine Consumes.congr ((consumes_expect _).bind ((consumes_expect _).bind
    (consumes_within .brace hclosed hmethods.eq_some))) ?_
  simp only [serializableItem, Item.tokens, implementation, tokens_routines, implHead,
    runtimeTrait, runtimeName, braces, List.append_assoc]

omit hruntime

theorem consumes_readStruct (derived : List String) (ident : String) {body : Tokens}
    (hbody : Closed body) :
    Consumes (readStruct derived) (struct derived ident body) ident := by
  refine Consumes.congr ((consumes_expect _).bind ((consumes_expect _).bind
    ((consumes_name ident).bind ((consumes_group .brace hbody).bind (consumes_pure ident))))) ?_
  simp [struct, tokens, braces]

theorem closed_members {fields : List Field} (hfields : ∀ f ∈ fields, f.IsMade) :
    Closed (members fields) := by
  refine closed_flatMap fun f hf opened => ?_
  simp [tokens, openAfter, (hfields f hf).closed_type.openAfter_append]

include hruntime

/-- An object shows its struct. -/
theorem consumes_readObject (rollback : Bool) {o : ObjectItem}
    (hfields : ∀ f ∈ o.fields, f.IsMade) :
    Consumes (readObject runtime) ((objectItems runtime rollback o).flatMap Item.tokens)
      ⟨o.ident, none, routineBodies runtime false rollback o.fields⟩ := by
  refine Consumes.congr ((consumes_readStruct _ o.ident (closed_members hfields)).bind
    ((consumes_readSerializable hruntime false rollback o.ident hfields).bind
      (consumes_pure _))) ?_
  simp only [objectItems, List.flatMap_cons, List.flatMap_nil, Item.tokens, List.append_nil]

omit hruntime

theorem readTagMethod_append (constant : String) (rest : Tokens) :
    readTagMethod constant ((typeIdRoutine constant).tokens ++ rest) = some ((), []) := by
  have htokens : (typeIdRoutine constant).tokens ++ rest =
      tokens ["fn", "type_id"] ++ (parens (tokens ["&", "self"]) ++
        (tokens ["->", "u8"] ++ (braces [.word constant] ++ rest))) := by
    simp [typeIdRoutine, Routine.tokens, selfParameter, tokens, Block.tokens, Expr.tokens,
      Module.word]
  rw [htokens]
  exact (consumes_expect _).bind_end ((consumes_expect _).bind_end ((consumes_expect _).bind_end
    ((consumes_expect _).bind_end rfl)))

theorem readVersion_append (version : UInt8) (rest : Tokens) :
    readVersion (literalConstant "VERSION" (hexByte version) ++ rest) =
      some (hexByte version, []) := by
  have htokens : literalConstant "VERSION" (hexByte version) ++ rest =
      tokens ["pub", "const", "VERSION", ":", "u8", "="] ++
        ([.word (hexByte version)] ++ (.word ";" :: rest)) := by
    simp [literalConstant, tokens]
  rw [htokens]
  exact (consumes_expect _).bind_end ((consumes_name _).bind_end rfl)

theorem closed_constructors (fields : List Field) : Closed (constructors fields) := by
  have hfields : Closed (fields.flatMap fun f =>
      tokens [f.ident, ":"] ++ defaultValue.tokens ++ [.word ","]) :=
    closed_flatMap fun f _ opened => rfl
  intro opened
  unfold constructors
  generalize (fields.flatMap fun f =>
    tokens [f.ident, ":"] ++ defaultValue.tokens ++ [.word ","]) = ts at hfields
  simp only [attr, tokens, parens, brackets, braces, delimited, List.map_cons, List.map_nil,
    List.cons_append, List.nil_append, List.append_assoc, openAfter, hfields.openAfter_append,
    if_true]

theorem closed_tagMethods (constant : String) {r : Routine} (hr : Closed r.tokens) :
    Closed ([typeIdRoutine constant, r].flatMap Routine.tokens) := by
  have htag : Closed (typeIdRoutine constant).tokens := fun opened => rfl
  exact htag.append (hr.append closed_nil)

theorem readTagMethod_methods (constant : String) (r : Routine) :
    readTagMethod constant ([typeIdRoutine constant, r].flatMap Routine.tokens) =
      some ((), []) := by
  rw [List.flatMap_cons]
  exact readTagMethod_append constant _

include hruntime

theorem closed_getRoutine (ident : String) : Closed (getRoutine runtime ident).tokens := by
  intro opened
  simp [getRoutine, Routine.tokens, selfParameter, tokens, path, parens, braces, delimited,
    openAfter, TypeTerm.tokens, runtimeTrait, runtimeName, Block.tokens, Expr.tokens, argTokens,
    moreArgTokens, newBox, Module.word, hruntime.openAfter_append]

/-- The factory of a message shows its identifier. -/
theorem consumes_readFactory (m : MessageItem) :
    Consumes (readFactory runtime m.constant)
      ((Item.marker ["Clone", "Copy", "Debug", "Default"] m.factory).tokens ++
        (Item.implementation [] (runtimeTrait runtime "MessageFactory") m.factory
          [typeIdRoutine m.constant, getRoutine runtime m.ident]).tokens) m.factory := by
  refine Consumes.congr ((consumes_expect _).bind ((consumes_expect _).bind
    ((consumes_name m.factory).bind ((consumes_expect _).bind ((consumes_expect _).bind
      ((consumes_within .brace
        (closed_tagMethods m.constant (closed_getRoutine hruntime m.ident))
        (readTagMethod_methods m.constant _)).bind (consumes_pure m.factory))))))) ?_
  simp [Item.tokens, implementation, implHead, runtimeTrait, runtimeName, tokens, braces]

/-- A message shows its struct with the literals of its tag and its version. -/
theorem consumes_readMessage (rollback : Bool) {m : MessageItem}
    (hfields : ∀ f ∈ m.fields, f.IsMade) :
    Consumes (readMessage runtime) ((messageItems runtime rollback m).flatMap Item.tokens)
      ⟨m.ident, some (hexByte m.plan.id, hexByte m.plan.version),
        routineBodies runtime true rollback m.fields⟩ := by
  have hmembers : Closed (tokens [versionMember, ":", "u8", ","] ++ members m.fields) :=
    (closed_tokens _).append (closed_members hfields)
  have hversion : Closed (literalConstant "VERSION" (hexByte m.plan.version) ++
      constructors m.fields) :=
    (closed_tokens _).append (closed_constructors m.fields)
  have hdefault : Closed ([defaultRoutine].flatMap Routine.tokens) := fun opened => rfl
  have hmethods : Closed ([typeIdRoutine m.constant, versionRoutine].flatMap Routine.tokens) :=
    closed_tagMethods m.constant fun opened => rfl
  refine Consumes.congr
    ((consumes_expect _).bind ((consumes_name m.constant).bind ((consumes_expect _).bind
      ((consumes_name (hexByte m.plan.id)).bind ((consumes_expect _).bind
        ((consumes_readStruct _ m.ident hmembers).bind ((consumes_expect _).bind
          ((consumes_within .brace hversion (readVersion_append _ _)).bind
            ((consumes_expect _).bind ((consumes_group .brace hdefault).bind
              ((consumes_readSerializable hruntime true rollback m.ident hfields).bind
                ((consumes_expect _).bind
                  ((consumes_within .brace hmethods (readTagMethod_methods _ _)).bind
                    ((consumes_readFactory hruntime m).bind
                      (consumes_pure _))))))))))))))) ?_
  simp [messageItems, Item.tokens, literalConstant, implementation, implHead, runtimeTrait,
    runtimeName, tokens, braces]

theorem closed_addFactory (factory : String) : Closed (addFactory runtime factory).tokens := by
  intro opened
  simp [addFactory, newBox, Block.tokens, Expr.tokens, argTokens, moreArgTokens, Module.word,
    runtimeName, path, parens, delimited, openAfter, hruntime.openAfter_append]

omit hruntime

theorem consumes_readAdded (runtime : Tokens) (factory : String) :
    Consumes (readAdded runtime) (addFactory runtime factory).tokens factory := by
  refine Consumes.congr ((consumes_expect _).bind ((consumes_expect _).bind
    ((consumes_expect _).bind ((consumes_name factory).bind
      ((consumes_expect _).bind (consumes_pure factory)))))) ?_
  simp [addFactory, newBox, Block.tokens, Expr.tokens, argTokens, moreArgTokens, Module.word,
    runtimeName, tokens, parens, delimited]

theorem readAdded_nil (runtime : Tokens) : readAdded runtime [] = none := by
  have hname : (runtime ++ path ["FactoryRegistry", "add_factory"]).isPrefixOf? [] = none := by
    cases runtime <;> rfl
  change ((((runtime ++ path ["FactoryRegistry", "add_factory"]).isPrefixOf? []).map
    fun rest => ((), rest)).bind _ : Option _) = none
  rw [hname]
  rfl

include hruntime

/-- The function that registers factories shows them in order. -/
theorem consumes_readRegistration (factories : List String) :
    Consumes (readRegistration runtime) (registerItem runtime factories).tokens factories := by
  have hdone : ∀ b ∈ factories.map (addFactory runtime), b.endsDone = true :=
    List.forall_mem_map.2 fun factory _ => rfl
  have hbody : (Block.concat (factories.map (addFactory runtime))).tokens =
      factories.flatMap fun factory => (addFactory runtime factory).tokens := by
    rw [Block.tokens_concat hdone, List.flatMap_map]
  have hclosed : Closed (factories.flatMap fun factory => (addFactory runtime factory).tokens) :=
    closed_flatMap fun factory _ => closed_addFactory hruntime factory
  have hmany : many (readAdded runtime)
      (factories.flatMap fun factory => (addFactory runtime factory).tokens) =
        some (factories, []) := by
    have h := many_flatMap factories (fun factory _ => consumes_readAdded runtime factory)
      (fun factory => by simp [addFactory, Block.tokens]) (readAdded_nil runtime)
    rwa [List.append_nil, List.map_id'] at h
  have hparameters : Closed (tokens ["registry", ":", "&", "mut", "impl"] ++
      runtimeTrait runtime "FactoryRegistry") :=
    (closed_tokens _).append (hruntime.append (closed_tokens ["::", "FactoryRegistry"]))
  refine Consumes.congr ((consumes_expect _).bind ((consumes_expect _).bind
    ((consumes_expect _).bind ((consumes_group .paren hparameters).bind
      (consumes_within .brace hclosed hmany))))) ?_
  simp [registerItem, Item.tokens, Routine.tokens, hbody, tokens, parens, braces]

end Items

/-! ### Modules -/

theorem readObject_message (runtime rest : Tokens) :
    readObject runtime (.word "pub" :: rest) = none := rfl

theorem readObject_registration (runtime rest : Tokens) (factories : List String) :
    readObject runtime ((registerItem runtime factories).tokens ++ rest) = none := rfl

theorem readMessage_registration (runtime rest : Tokens) (factories : List String) :
    readMessage runtime ((registerItem runtime factories).tokens ++ rest) = none := rfl

/-- The structs and the factories of a module are read from its tokens. -/
theorem readModule?_fileItems {runtime : Tokens} (hruntime : Closed runtime) (rollback : Bool)
    {objects : List ObjectItem} {messages : List MessageItem}
    (hobjects : ∀ o ∈ objects, ∀ f ∈ o.fields, f.IsMade)
    (hmessages : ∀ m ∈ messages, ∀ f ∈ m.fields, f.IsMade) (factories : List String) :
    readModule? runtime
        ((fileItems runtime rollback objects messages factories).flatMap Item.tokens) =
      some (objects.map (fun o =>
          ⟨o.ident, none, routineBodies runtime false rollback o.fields⟩) ++
        messages.map (fun m =>
          ⟨m.ident, some (hexByte m.plan.id, hexByte m.plan.version),
            routineBodies runtime true rollback m.fields⟩), factories) := by
  let part (m : MessageItem) : Tokens := (messageItems runtime rollback m).flatMap Item.tokens
  let registration := (registerItem runtime factories).tokens
  have hbehind : readObject runtime (messages.flatMap part ++ registration) = none := by
    cases messages with
    | nil => exact readObject_registration runtime [] factories
    | cons m messages => exact readObject_message runtime _
  have hmany := many_flatMap objects
    (fun o ho => consumes_readObject hruntime rollback (hobjects o ho))
    (fun o => List.cons_ne_nil _ _) hbehind
  have hbehind' : readMessage runtime registration = none :=
    readMessage_registration runtime [] factories
  have hmany' := many_flatMap messages
    (fun m hm => consumes_readMessage hruntime rollback (hmessages m hm))
    (fun m => List.cons_ne_nil _ _) hbehind'
  have hregistration := (consumes_readRegistration hruntime factories).eq_some
  have htokens : (fileItems runtime rollback objects messages factories).flatMap Item.tokens =
      traitImport runtime ++ (objects.flatMap (fun o =>
          (objectItems runtime rollback o).flatMap Item.tokens) ++
        (messages.flatMap part ++ registration)) := by
    simp only [tokens_fileItems, ← List.flatMap_def, List.append_assoc, part, registration]
  rw [htokens, readModule?, readItems, bind_of_eq_some (consumes_expect _ _),
    bind_of_eq_some hmany, bind_of_eq_some hmany', bind_of_eq_some hregistration]
  rfl

/-! ### Contracts -/

/-- A struct renders a contract: its name is the identifier of the name of the contract, it has the
literals of the contract, its routines take the actions of the fields, and no others if the
identifiers of the fields differ, and its reads can fail as often as the fields ask for. -/
structure Renders (g : Grammar) (runtime : Tokens) (rollback : Bool)
    (w : WireType (List PlannedField)) (t : WireType (Bodies Token)) : Prop where
  name_eq : identifier w.name = .ok t.name
  literals_eq : t.literals = w.literals
  takes : ∃ fields, w.content.mapM (Field.make g) = .ok fields ∧
    (phrasebook runtime w.literals.isSome rollback).Takes fields t.content
      (w.content.map PlannedField.actions)
  takes_only : ∀ fields, w.content.mapM (Field.make g) = .ok fields →
    (fields.map (·.ident)).Nodup → ∀ actions,
      (phrasebook runtime w.literals.isSome rollback).Takes fields t.content actions →
        actions = w.content.map PlannedField.actions
  exits_eq : exitWord ∉ runtime → t.content.read.count exitWord = failureExits w.content

variable {g : Grammar}

theorem isMade_of_mapM {fs : List PlannedField} {fields : List Field}
    (h : fs.mapM (Field.make g) = .ok fields) : ∀ f ∈ fields, f.IsMade := by
  intro f hf
  obtain ⟨p, -, hp⟩ := exists_of_mem_of_mapM h hf
  exact Field.isMade hp

theorem renders_routineBodies {w : WireType (List PlannedField)} {ident : String}
    {fields : List Field} (hident : identifier w.name = .ok ident)
    (hfields : w.content.mapM (Field.make g) = .ok fields) {runtime : Tokens}
    (hruntime : Closed runtime) (rollback : Bool) :
    Renders g runtime rollback w
      ⟨ident, w.literals, routineBodies runtime w.literals.isSome rollback fields⟩ := by
  have hmade := isMade_of_mapM hfields
  have hplans : fields.map (·.plan.actions) = w.content.map PlannedField.actions := by
    rw [← (mapM_make_eq_ok hfields).2, List.map_map]
    rfl
  exact
    { name_eq := hident
      literals_eq := rfl
      takes := ⟨fields, hfields, hplans ▸
        takes_routineBodies runtime w.literals.isSome rollback fields⟩
      takes_only := by
        intro fields' hfields' hidents actions htakes
        obtain rfl := Except.ok.inj (hfields'.symm.trans hfields)
        rw [← hplans]
        exact actions_eq_of_takes w.literals.isSome rollback hruntime
          (fun f hf => (hmade f hf).closed_value) hidents htakes
      exits_eq := by
        intro hexit
        rw [← (mapM_make_eq_ok hfields).2]
        exact count_exitWord_routineBodies hexit w.literals.isSome rollback
          (fun f hf => (hmade f hf).ident_ne) fun f hf => (hmade f hf).exitWord_notMem }

theorem closed_runtimePath {s : ModuleSettings} {runtime : Tokens}
    (h : runtimePath g s = .ok runtime) : Closed runtime := by
  unfold runtimePath at h
  split at h
  · rename_i phrase _
    cases h
    exact phrase.closed_tokens
  · cases h

/-- The structs of a module render the contracts of its plan, in order, and the module registers the
factories of the messages, in order. -/
theorem readModule?_items {s : Settings} {p : Plan} {ts : Tokens} (h : items g s p = .ok ts) :
    ∃ runtime types factories,
      runtimePath g s.module = .ok runtime ∧
      readModule? runtime ts = some (types, factories) ∧
      List.Forall₂ (Renders g runtime s.generate.rollback) p.contracts types ∧
      p.messages.mapM (fun m => identifier (factoryName m.name)) = .ok factories := by
  obtain ⟨runtime, objects, messages, factories, hruntime, hobjects, hmessages, hfactories, rfl⟩ :=
    items_eq_ok h
  have hobjectFields : ∀ o ∈ objects, ∀ f ∈ o.fields, f.IsMade := by
    intro o ho
    obtain ⟨po, -, hpo⟩ := exists_of_mem_of_mapM hobjects ho
    exact isMade_of_mapM (ObjectItem.make_eq_ok hpo).2
  have hmessageFields : ∀ m ∈ messages, ∀ f ∈ m.fields, f.IsMade := by
    intro m hm
    obtain ⟨pm, -, hpm⟩ := exists_of_mem_of_mapM hmessages hm
    exact isMade_of_mapM (MessageItem.make_eq_ok hpm).2.2
  have hclosed := closed_runtimePath hruntime
  have hread := readModule?_fileItems hclosed s.generate.rollback
    hobjectFields hmessageFields factories
  refine ⟨runtime, _, factories, hruntime, hread, ?_, hfactories⟩
  rw [Plan.contracts]
  refine List.rel_append ?_ ?_
  · rw [List.forall₂_map_left_iff, List.forall₂_map_right_iff]
    refine (mapM_eq_ok_iff.1 hobjects).imp fun o i hi => ?_
    obtain ⟨hident, hfields⟩ := ObjectItem.make_eq_ok hi
    exact renders_routineBodies (w := ⟨o.name, none, o.fields⟩) hident hfields hclosed _
  · rw [List.forall₂_map_left_iff, List.forall₂_map_right_iff]
    refine (mapM_eq_ok_iff.1 hmessages).imp fun m i hi => ?_
    obtain ⟨rfl, hident, hfields⟩ := MessageItem.make_eq_ok hi
    exact renders_routineBodies
      (w := ⟨i.plan.name ++ "Message", some (hexByte i.plan.id, hexByte i.plan.version),
        i.plan.fields⟩) hident hfields hclosed _

end WireSchema.Module
