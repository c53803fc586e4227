import WireSchema.Proofs.FieldType.Characters
import WireSchema.Proofs.Header.MemberNames
import WireSchema.Proofs.Header.Texts
import WireSchema.Proofs.Text.Brackets

/-!
# The brackets of an emitted header

A header opens its namespace, classes, routines, loops and conditions on one line and closes them
on a later one, and an expression holds as many parentheses as it follows pointers. All of them are
nested, whatever is emitted, as long as the names and type texts of the schema and the names in the
settings hold no brackets themselves. The argument follows the trees from which a header is
written: expressions, statements, blocks, routines and classes are nested texts, because the texts
at their leaves have no brackets.

## Main definitions

* `Definitions.texts`, `HeaderSettings.texts`: what a schema and the settings put into a header.

## Main results

* `Header.Expr.isNested_text`, `Header.Block.isNested_lines`: expressions and blocks are nested.
* `Header.isNested_lines`: the lines of a plan are nested.
* `Header.emit_isNested`: every header that is emitted is nested.
-/

namespace WireSchema

open Text

/-! ### The texts of a schema -/

/-- The name and the type text that an operation mentions. -/
def Operation.texts : Operation → List String
  | add name type => [name, type]
  | remove name => [name]
  | change name type => [name, type]

/-- The names and type texts of a message: its own name, and those of all steps of its history. -/
def Message.texts (m : Message) : List String :=
  m.name :: m.operations.flatMap Operation.texts

/-- The names and type texts of an object. -/
def Object.texts (o : Object) : List String :=
  o.name :: o.fields.flatMap fun f => [f.name, f.type]

/-- The names and type texts of a schema. -/
def Definitions.texts (d : Definitions) : List String :=
  d.objects.flatMap Object.texts ++ d.messages.flatMap Message.texts

/-- The names that the settings give to a header. -/
def HeaderSettings.texts (s : HeaderSettings) : List String :=
  [s.includeGuard, s.coreHeader, s.space]

/-- The name and the type of a field that is left come from its history. -/
theorem Message.texts_of_mem_fields {m : Message} {f : ResolvedField} (h : f ∈ m.resolve.fields) :
    f.name ∈ m.texts ∧ f.type ∈ m.texts := by
  obtain ⟨-, -, htype⟩ := Message.mem_fields_iff.1 h
  rw [Operation.lastType?, List.findSomeRev?_eq_findSome?_reverse] at htype
  obtain ⟨op, hop, htype⟩ := List.exists_of_findSome?_eq_some htype
  have hmem : ∀ t ∈ op.texts, t ∈ m.texts := fun t ht =>
    List.mem_cons_of_mem _ (List.mem_flatMap.2 ⟨op, List.mem_reverse.1 hop, ht⟩)
  cases op with
  | remove name => cases htype
  | add name type =>
    obtain ⟨rfl, rfl⟩ : name = f.name ∧ type = f.type := by simpa [Operation.typeFor?] using htype
    exact ⟨hmem _ (by simp [Operation.texts]), hmem _ (by simp [Operation.texts])⟩
  | change name type =>
    obtain ⟨rfl, rfl⟩ : name = f.name ∧ type = f.type := by simpa [Operation.typeFor?] using htype
    exact ⟨hmem _ (by simp [Operation.texts]), hmem _ (by simp [Operation.texts])⟩

/-- The characters of a byte in hexadecimal digits. -/
theorem allChars_hexByte {q : Char → Prop} (hmark : AllChars q "0x")
    (hdigits : ∀ d < 16, q d.digitChar) (b : UInt8) : AllChars q (hexByte b) := by
  refine allChars_append_iff.2 ⟨hmark, allChars_ofList_iff.2 fun c hc => ?_⟩
  obtain ⟨d, hd, rfl⟩ := exists_digit_of_mem_toDigits (by decide) hc
  exact hdigits d hd

/-- The tag of a message and its version are written without brackets. -/
theorem isPlain_hexByte (b : UInt8) : IsPlain (hexByte b) := by
  have hmark : IsPlain "0x" := by decide
  rw [isPlain_eq] at hmark ⊢
  exact allChars_hexByte hmark (by decide) b

namespace Header

/-! ### Lines -/

variable {left right head tail text : String} {depth depth' : Nat} {body rest : List Line}

theorem marks_render (l : Line) : marks l.render = marks l.text := by
  have htabs : marks (String.ofList (List.replicate l.depth '\t')) = [] :=
    isPlain_ofList_iff.2 fun c hc => List.eq_of_mem_replicate hc ▸ rfl
  have hend : marks "\n" = [] := by decide
  rw [Line.render, marks_append, marks_append, htabs, hend, List.nil_append, List.append_nil]

theorem renderLines_cons (l : Line) (ls : List Line) :
    renderLines (l :: ls) = l.render ++ renderLines ls := by
  rw [renderLines, List.map_cons, String.join_cons]
  rfl

theorem renderLines_append (ls ls' : List Line) :
    renderLines (ls ++ ls') = renderLines ls ++ renderLines ls' := by
  induction ls with
  | nil => exact (String.empty_append).symm
  | cons l ls ih =>
    rw [List.cons_append, renderLines_cons, renderLines_cons, ih, String.append_assoc]

theorem isNested_nil : IsNested (renderLines []) := by decide

theorem isNested_cons {l : Line} {ls : List Line} (h : IsNested l.text)
    (hls : IsNested (renderLines ls)) : IsNested (renderLines (l :: ls)) := by
  have hline : IsNested l.render := by
    rw [IsNested, marks_render]
    exact h
  rw [renderLines_cons]
  exact hline.append hls

theorem isNested_append {ls ls' : List Line} (h : IsNested (renderLines ls))
    (h' : IsNested (renderLines ls')) : IsNested (renderLines (ls ++ ls')) := by
  rw [renderLines_append]
  exact h.append h'

theorem isNested_map {α : Type} {write : α → Line} {l : List α}
    (h : ∀ a ∈ l, IsNested (write a).text) : IsNested (renderLines (l.map write)) := by
  induction l with
  | nil => exact isNested_nil
  | cons a l ih =>
    rw [List.forall_mem_cons] at h
    exact isNested_cons h.1 (ih h.2)

theorem isNested_flatMap {α : Type} {write : α → List Line} {l : List α}
    (h : ∀ a ∈ l, IsNested (renderLines (write a))) : IsNested (renderLines (l.flatMap write)) := by
  induction l with
  | nil => exact isNested_nil
  | cons a l ih =>
    rw [List.forall_mem_cons] at h
    exact isNested_append h.1 (ih h.2)

/-- Lines between a line that opens brackets and the line that closes them, with lines after
them. -/
theorem isNested_enclosed (h : IsNested (head ++ tail)) (hbody : IsNested (renderLines body))
    (hrest : IsNested (renderLines rest)) :
    IsNested (renderLines (⟨depth, head⟩ :: body ++ ⟨depth', tail⟩ :: rest)) := by
  have hmarks : marks (renderLines (⟨depth, head⟩ :: body ++ ⟨depth', tail⟩ :: rest)) =
      marks (head ++ renderLines body ++ tail ++ renderLines rest) := by
    simp only [renderLines_cons, renderLines_append, marks_append, marks_render,
      List.append_assoc]
  rw [IsNested, hmarks]
  exact (h.insert hbody).append hrest

/-- The same, where a nested text stands in the opening line. -/
theorem isNested_block (h : IsNested (left ++ (right ++ tail))) (htext : IsNested text)
    (hbody : IsNested (renderLines body)) (hrest : IsNested (renderLines rest)) :
    IsNested (renderLines (⟨depth, left ++ text ++ right⟩ :: body ++ ⟨depth', tail⟩ :: rest)) := by
  refine isNested_enclosed ?_ hbody hrest
  rw [String.append_assoc]
  exact h.insert htext

/-! ### Expressions and statements -/

theorem isNested_call {args : List String} (htext : IsNested text)
    (hargs : ∀ a ∈ args, IsNested a) :
    IsNested (text ++ "(" ++ ", ".intercalate args ++ ")") :=
  htext.append_insert (by decide) (IsNested.intercalate (by decide) hargs)

theorem isNested_parenthesize (needed : Bool) (h : IsNested text) :
    IsNested (parenthesize needed text) := by
  cases needed with
  | false => exact h
  | true => exact IsNested.insert (by decide) h

mutual

/-- The text of an expression is nested if its leaves have no brackets. -/
theorem Expr.isNested_text : (e : Expr) → e.AllTexts IsPlain → IsNested e.text
  | .name _, h => IsPlain.isNested h
  | .member _, h => (by decide : IsNested "this->").append (IsPlain.isNested h)
  | .item a, h => (Expr.isNested_text a h).append (by decide)
  | .deref e, h => (by decide : IsNested "*").append (Expr.isNested_text e h)
  | .address e, h => (by decide : IsNested "&").append (Expr.isNested_text e h)
  | .negation e, h => (by decide : IsNested "!").append (Expr.isNested_text e h)
  | .isUnset e, h => (Expr.isNested_text e h).append (by decide)
  | .isSet e, h => (Expr.isNested_text e h).append (by decide)
  | .both a b, h =>
    ((Expr.isNested_text a h.1).append (by decide)).append (Expr.isNested_text b h.2)
  | .sizeOf e, h => (by decide : IsNested "sizeof ").append (Expr.isNested_text e h)
  | .call _ args, h => isNested_call (IsPlain.isNested h.1) (isNested_argTexts args h.2)
  | .onValue e _ args, h =>
    isNested_call
      (((isNested_parenthesize _ (Expr.isNested_text e h.1)).append (by decide)).append
        (IsPlain.isNested h.2.1))
      (isNested_argTexts args h.2.2)
  | .onPointer e _ args, h =>
    isNested_call
      (((isNested_parenthesize _ (Expr.isNested_text e h.1)).append (by decide)).append
        (IsPlain.isNested h.2.1))
      (isNested_argTexts args h.2.2)
  | .construct _ args, h =>
    isNested_call ((by decide : IsNested "new ").append (IsPlain.isNested h.1))
      (isNested_argTexts args h.2)
  | .constructArray _ count, h =>
    ((((by decide : IsNested "new ").append (IsPlain.isNested h.1)).append (by decide)).append
      (Expr.isNested_text count h.2)).append (by decide)

/-- The texts of arguments are nested. -/
theorem isNested_argTexts : (args : List Expr) → AllArgTexts IsPlain args →
    ∀ t ∈ argTexts args, IsNested t
  | [], _ => by simp [argTexts]
  | e :: es, h => by
    rw [argTexts, List.forall_mem_cons]
    exact ⟨Expr.isNested_text e h.1, isNested_argTexts es h.2⟩

end

theorem Simple.isNested_text (s : Simple) (h : s.AllTexts IsPlain) : IsNested s.text := by
  cases s with
  | declare type name value =>
    obtain ⟨htype, hname, hvalue⟩ := h
    exact ((((htype.isNested.append (by decide)).append hname.isNested).append (by decide)).append
      (value.isNested_text hvalue)).append (by decide)
  | assign target value =>
    exact (((target.isNested_text h.1).append (by decide)).append
      (value.isNested_text h.2)).append (by decide)
  | increase target value =>
    exact (((target.isNested_text h.1).append (by decide)).append
      (value.isNested_text h.2)).append (by decide)
  | run e => exact (e.isNested_text h).append (by decide)
  | free e => exact ((by decide : IsNested "delete ").append (e.isNested_text h)).append (by decide)
  | freeArray e =>
    exact ((by decide : IsNested "delete[] ").append (e.isNested_text h)).append (by decide)
  | give e => exact ((by decide : IsNested "return ").append (e.isNested_text h)).append (by decide)

/-- The lines of a block are nested if its leaves have no brackets. -/
theorem Block.isNested_lines (b : Block) (h : b.AllTexts IsPlain) (depth : Nat) :
    IsNested (renderLines (b.lines depth)) := by
  induction b generalizing depth with
  | done => exact isNested_nil
  | step s rest ih => exact isNested_cons (s.isNested_text h.1) (ih h.2 depth)
  | «when» c body rest ihbody ihrest =>
    obtain ⟨hc, hbody, hrest⟩ := h
    exact isNested_block (by decide) (c.isNested_text hc) (ihbody hbody (depth + 1))
      (ihrest hrest depth)
  | each n body rest ihbody ihrest =>
    obtain ⟨hn, hbody, hrest⟩ := h
    exact isNested_block (by decide) (n.isNested_text hn) (ihbody hbody (depth + 1))
      (ihrest hrest depth)

/-! ### Classes -/

variable {fields : List PlannedField}

theorem Member.isNested_declaration {m : Member} (htype : IsPlain m.type) (hname : IsPlain m.name) :
    IsNested m.declaration := by
  refine ((htype.isNested.append (by decide)).append hname.isNested).append ?_
  cases m.zeroed <;> decide

theorem Member.isNested_firstValue {m : Member} (hname : IsPlain m.name) :
    IsNested m.firstValue := by
  refine hname.isNested.append ?_
  cases m.zeroed <;> decide

theorem isNested_commas {α : Type} {write : α → String} {l : List α}
    (h : ∀ a ∈ l, IsNested (write a)) : IsNested (commas (l.map write)) := by
  refine IsNested.intercalate (by decide) fun t ht => ?_
  obtain ⟨a, ha, rfl⟩ := List.mem_map.1 ht
  exact h a ha

theorem isNested_declarations (h : ∀ f ∈ fields, MemberTexts IsPlain f) :
    IsNested (renderLines (declarations fields)) := by
  refine isNested_map fun m hm => ?_
  obtain ⟨htype, hname⟩ := MemberTexts.members (by decide) h m hm
  exact m.isNested_declaration htype hname

theorem isNested_routineLines (h : ∀ f ∈ fields, MemberTexts IsPlain f)
    (isMessage rollback : Bool) :
    IsNested (renderLines (routineLines isMessage rollback fields)) := by
  have hsignature : ∀ r ∈ routines isMessage rollback fields, IsNested r.signature := by
    simp only [routines, lengthRoutine, deserializeRoutine, serializeRoutine, disposeRoutine,
      List.forall_mem_cons, List.not_mem_nil, false_implies, implies_true, and_true]
    decide
  have hbody := allTexts_routines (p := IsPlain) (by decide) (fun f hf => (h f hf).texts)
    isMessage rollback
  refine isNested_flatMap fun r hr => isNested_enclosed ?_ (r.body.isNested_lines (hbody r hr) _)
    isNested_nil
  rw [String.append_assoc]
  exact (hsignature r hr).append (by decide)

theorem isNested_objectConstructors {o : PlannedObject} (hname : IsPlain o.name)
    (h : ∀ f ∈ o.fields, MemberTexts IsPlain f) :
    IsNested (renderLines (objectConstructors o)) := by
  have hmembers := MemberTexts.members (by decide) h
  have hvalues : IsNested (commas ((o.fields.flatMap members).map Member.firstValue)) :=
    isNested_commas fun m hm => m.isNested_firstValue (hmembers m hm).2
  have hparameters : IsNested (commas ((o.fields.flatMap members).map Member.parameter)) :=
    isNested_commas fun m hm => ((hmembers m hm).1.isNested.append (by decide)).append
      (hmembers m hm).2.isNested
  have hinitialisers : IsNested (commas ((o.fields.flatMap members).map Member.fromParameter)) :=
    isNested_commas fun m hm => (hmembers m hm).2.isNested.append_insert (by decide)
      (hmembers m hm).2.isNested
  unfold objectConstructors
  dsimp only
  split_ifs
  · exact isNested_cons (hname.isNested.append (by decide)) isNested_nil
  · refine isNested_cons ?_ (isNested_cons ?_ isNested_nil)
    · exact ((hname.isNested.append (by decide)).append hvalues).append (by decide)
    · exact ((hname.isNested.append_insert (by decide) hparameters).append
        hinitialisers).append (by decide)

/-- The class of an object is nested. -/
theorem isNested_objectLines {o : PlannedObject} (hname : IsPlain o.name)
    (h : ∀ f ∈ o.fields, MemberTexts IsPlain f) (rollback : Bool) :
    IsNested (renderLines (objectLines rollback o)) := by
  have hpublic : IsNested (renderLines [⟨1, "public:"⟩]) := by decide
  have hblank : IsNested (renderLines [blank]) := by decide
  refine isNested_block (by decide) hname.isNested ?_ hblank
  refine isNested_append (isNested_append (isNested_append ?_ ?_) hblank) ?_
  · exact isNested_append hpublic (isNested_declarations h)
  · exact isNested_objectConstructors hname h
  · exact isNested_routineLines h false rollback

theorem isPlain_tagConstant {m : PlannedMessage} (hname : IsPlain m.name) :
    IsPlain (tagConstant m) :=
  isPlain_append_iff.2 ⟨by decide, isPlain_upper hname⟩

theorem isNested_typeMethod {m : PlannedMessage} (hname : IsPlain m.name) :
    IsNested (typeMethod m).text :=
  IsNested.insert (by decide) (isPlain_tagConstant hname).isNested

/-- The class of a message is nested. -/
theorem isNested_messageClass {m : PlannedMessage} (hname : IsPlain m.name)
    (h : ∀ f ∈ m.fields, MemberTexts IsPlain f) (rollback : Bool) :
    IsNested (renderLines (messageClass rollback m)) := by
  refine isNested_block (by decide) hname.isNested ?_ isNested_nil
  refine isNested_append (isNested_append (isNested_append ?_ (isNested_declarations h)) ?_)
    (isNested_routineLines h true rollback)
  · have hversion := (isPlain_hexByte m.version).isNested
    exact isNested_cons (by decide) (isNested_cons (by decide)
      (isNested_cons (hname.isNested.append_insert (by decide) hversion)
        (isNested_cons (hname.isNested.append (by decide)) isNested_nil)))
  · exact isNested_cons (by decide) (isNested_cons (isNested_typeMethod hname)
      (isNested_cons (by decide) isNested_nil))

/-- The factory of a message is nested. -/
theorem isNested_factoryClass {m : PlannedMessage} (hname : IsPlain m.name) :
    IsNested (renderLines (factoryClass m)) := by
  have hbody : IsNested (renderLines
      [⟨1, "public:"⟩, typeMethod m, ⟨memberDepth,
        "Message* get(unsigned char ver) \x7b return new " ++ m.name ++ "Message(ver); \x7d"⟩]) :=
    isNested_cons (by decide) (isNested_cons (isNested_typeMethod hname)
      (isNested_cons (IsNested.insert (by decide) hname.isNested) isNested_nil))
  have hclass : IsNested (renderLines
      (⟨1, "class " ++ m.name ++ "MessageFactory : public MessageFactory \x7b"⟩ :: _ ++
        ⟨1, "\x7d;"⟩ :: [])) := isNested_block (by decide) hname.isNested hbody isNested_nil
  exact hclass

theorem isNested_messageLines {m : PlannedMessage} (hname : IsPlain m.name)
    (h : ∀ f ∈ m.fields, MemberTexts IsPlain f) (rollback : Bool) :
    IsNested (renderLines (messageLines rollback m)) := by
  have htag : IsNested ("#define " ++ tagConstant m ++ " " ++ hexByte m.id) :=
    (((by decide : IsNested "#define ").append (isPlain_tagConstant hname).isNested).append
      (by decide)).append (isPlain_hexByte m.id).isNested
  exact isNested_append (isNested_append (isNested_append
    (isNested_cons htag (isNested_cons (by decide) isNested_nil))
    (isNested_messageClass hname h rollback)) (isNested_factoryClass hname)) (by decide)

theorem isNested_registerLines {messages : List PlannedMessage}
    (hnames : ∀ m ∈ messages, IsPlain m.name) :
    IsNested (renderLines (registerLines messages)) := by
  refine isNested_append (isNested_cons (by decide) (isNested_map fun m hm => ?_)) (by decide)
  exact IsNested.insert (by decide) (hnames m hm).isNested

/-! ### Headers -/

/-- The lines of a plan are nested. -/
theorem isNested_lines {s : HeaderSettings} (hs : ∀ t ∈ s.texts, IsPlain t) {p : Plan}
    (hp : PlanTexts IsPlain p) (rollback : Bool) : IsNested (renderLines (lines s rollback p)) := by
  obtain ⟨hguard, hcore, hspace⟩ :
      IsPlain s.includeGuard ∧ IsPlain s.coreHeader ∧ IsPlain s.space := by
    simpa [HeaderSettings.texts] using hs
  have hobjects := isNested_flatMap fun o ho =>
    isNested_objectLines (hp.objects o ho).1 (hp.objects o ho).2 rollback
  have hmessages := isNested_flatMap fun m hm =>
    isNested_messageLines (hp.messages m hm).1 (hp.messages m hm).2 rollback
  have hregister := isNested_registerLines fun m hm => (hp.messages m hm).1
  have hopening : IsNested (renderLines
      [⟨0, "#ifndef " ++ s.includeGuard⟩, ⟨0, "#define " ++ s.includeGuard⟩, blank,
       ⟨0, "#include \"" ++ s.coreHeader ++ "\""⟩, blank]) :=
    isNested_cons ((by decide : IsNested "#ifndef ").append hguard.isNested)
      (isNested_cons ((by decide : IsNested "#define ").append hguard.isNested)
        (isNested_cons (by decide) (isNested_cons (IsNested.insert (by decide) hcore.isNested)
          (isNested_cons (by decide) isNested_nil))))
  have hend : IsNested (renderLines [⟨0, "#endif"⟩]) := by decide
  have hspaceLines : IsNested (renderLines (⟨0, "namespace " ++ s.space ++ " \x7b"⟩ ::
      (p.objects.flatMap (objectLines rollback) ++ p.messages.flatMap (messageLines rollback) ++
        registerLines p.messages) ++ ⟨0, "\x7d"⟩ :: [⟨0, "#endif"⟩])) :=
    isNested_block (by decide) hspace.isNested
      (isNested_append (isNested_append hobjects hmessages) hregister) hend
  simpa [lines] using isNested_append hopening hspaceLines

/-- A property of characters holds of the texts that a field puts into a class, if it holds of its
name, of its type text and of the characters that are added to them. -/
theorem memberTexts_make {q : Char → Prop} (hown : ∀ c ∈ FieldType.ownChars, q c)
    (hcount : AllChars q (countName "")) (matching : Matching) (index : Nat) {name type : String}
    (hname : AllChars q name) (htype : AllChars q type) :
    MemberTexts (AllChars q) (.make matching name index type) := by
  simp only [countName, allChars_append_iff] at hcount
  have hcounted : AllChars q (countName name) := by
    simp only [countName, allChars_append_iff]
    exact ⟨⟨hcount.1.1, hname⟩, hcount.2⟩
  exact ⟨⟨hname, hcounted, FieldType.allChars_pointer matching hown htype⟩,
    allChars_memberType matching hown htype⟩

/-- A property of characters holds of the texts that the plan of a schema puts into classes, if it
holds of the texts of the schema and of the characters that are added to them. -/
theorem planTexts_make {q : Char → Prop} (hown : ∀ c ∈ FieldType.ownChars, q c)
    (hcount : AllChars q (countName "")) {d : Definitions} {s : GenerateSettings} {p : Plan}
    (h : (Plan.make d s).outcome = .ok p) (htexts : ∀ t ∈ d.texts, AllChars q t) :
    PlanTexts (AllChars q) p := by
  rw [Definitions.texts, List.forall_mem_append, List.forall_mem_flatMap,
    List.forall_mem_flatMap] at htexts
  obtain ⟨hobjects, hmessages⟩ := htexts
  constructor
  · rw [Plan.outcome_make] at h
    obtain ⟨messages, -, rfl⟩ := map_eq_ok_iff.1 h
    rw [List.forall_mem_map]
    intro o ho
    have htexts := hobjects o ho
    rw [Object.texts, List.forall_mem_cons, List.forall_mem_flatMap] at htexts
    refine ⟨htexts.1, fun f hf => ?_⟩
    obtain ⟨⟨field, index⟩, hfield, rfl⟩ := List.mem_map.1 hf
    have hfield := htexts.2 field (List.fst_mem_of_mem_zipIdx hfield)
    exact memberTexts_make hown hcount _ _ (hfield _ (by simp)) (hfield _ (by simp))
  · intro pm hpm
    obtain ⟨m, hm, hmake⟩ := Plan.exists_of_mem_messages h hpm
    obtain ⟨-, rfl⟩ := PlannedMessage.make_eq_ok hmake
    refine ⟨hmessages m hm _ List.mem_cons_self, ?_⟩
    rw [List.forall_mem_map]
    intro f hf
    obtain ⟨hname, htype⟩ := Message.texts_of_mem_fields hf
    exact memberTexts_make hown hcount _ _ (hmessages m hm _ hname) (hmessages m hm _ htype)

/-- The plan of a schema without brackets puts none into classes. -/
theorem planTexts_isPlain {d : Definitions} {s : GenerateSettings} {p : Plan}
    (h : (Plan.make d s).outcome = .ok p) (htexts : ∀ t ∈ d.texts, IsPlain t) :
    PlanTexts IsPlain p := by
  have hown : ∀ c ∈ FieldType.ownChars, mark? c = none :=
    List.filterMap_eq_nil_iff.1 (by decide +kernel)
  have hcount : IsPlain (countName "") := by decide
  rw [isPlain_eq] at hcount htexts ⊢
  exact planTexts_make hown hcount h htexts

/-- **Every emitted header is nested.** If no name and no type text of a schema and no name of the
settings has a bracket, then every bracket that the header closes is the innermost one that is
open, and none is left open. -/
theorem emit_isNested (g : Module.Grammar) (d : Definitions) (s : Settings) {text : String}
    (h : (Backend.header.emit g d s).outcome = .ok text)
    (htexts : ∀ t ∈ d.texts ++ s.header.texts, IsPlain t) : IsNested text := by
  obtain ⟨p, hplan, rfl⟩ := emit_eq_ok_iff.1 h
  rw [List.forall_mem_append] at htexts
  exact isNested_lines htexts.2 (planTexts_isPlain hplan htexts.1) s.generate.rollback

/-- An object and a message that have fields of all kinds. -/
def fleetSchema : Definitions where
  objects := [{
    name := "Ship"
    fields := [
      { name := "hull", type := "unsigned char" },
      { name := "crew", type := "Sailor**[]" }] }]
  messages := [{
    id := 0xA7
    name := "Fleet"
    versions := [
      { major := 1
        add := [{ name := "flag", type := "Ship" }, { name := "title", type := "char*" },
          { name := "scout", type := "Ship" }] },
      { major := 2
        remove := [{ name := "title" }]
        change := [{ name := "scout", type := "Ship***" }] }] }]

/-- The plan of `fleetSchema`. -/
def fleetPlan : Plan where
  objects := [{
    name := "Ship"
    fields := [.make .token "hull" 0 "unsigned char", .make .token "crew" 1 "Sailor**[]"] }]
  messages := [{
    id := 0xA7
    name := "Fleet"
    version := 2
    fields := [.make .token "flag" 0 "Ship", .make .token "scout" 2 "Ship***"] }]

/-- Settings with which failed reads are rolled back. -/
def fleetSettings : Settings where
  generate := { matching := .token, rollback := true }

/-- The header of `fleetSchema` is nested. -/
theorem emit_isNested_fleetSchema :
    (∀ t ∈ fleetSchema.texts ++ fleetSettings.header.texts, IsPlain t) ∧
      ∃ text,
        (Backend.header.emit Module.standardGrammar fleetSchema fleetSettings).outcome = .ok text ∧
        IsNested text := by
  have htexts : ∀ t ∈ fleetSchema.texts ++ fleetSettings.header.texts, IsPlain t := by
    decide +kernel
  have hplan : (Plan.make fleetSchema fleetSettings.generate).outcome = .ok fleetPlan :=
    (Plan.make_of_inOrder rfl (by decide)).trans (by decide +kernel)
  have hemit := emit_eq_ok_iff (g := Module.standardGrammar).2 ⟨_, hplan, rfl⟩
  exact ⟨htexts, _, hemit, emit_isNested _ _ _ hemit htexts⟩

end Header

end WireSchema
