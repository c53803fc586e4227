import WireSchema.Proofs.Header.Lines
import WireSchema.Proofs.Header.Nesting

/-!
# Reading lines back from the text of a header

A text is cut into lines at its line breaks, and the tabs before a line are its depth. From the text
of given lines they are read back, if none of them holds a line break or begins with a tab. The
lines of a block hold no line break if the names and the types in it hold none, and those of a whole
header are read back if no text of the schema and of the settings holds a tab or a line break.

## Main definitions

* `PlannedField.OneLine`: neither the name nor the type of a field has a line break.
* `Header.textLines`: the lines of a text.
* `Header.codeChars`: the characters that statements are written with.

## Main results

* `Header.textLines_renderLines`: lines are read back from their text.
* `Header.Expr.allChars_text`, `Header.Simple.allChars_text`: the characters of statements.
* `Header.Block.oneLine_texts`: the lines of a block have no line breaks.
* `Header.textLines_lines`: the lines of a header are read back from its text.
* `PlannedField.oneLine_make`: a field that is planned from texts of one line.
-/

namespace WireSchema

open Text

/-- Neither the name nor the type of a field has a line break. -/
structure PlannedField.OneLine (f : PlannedField) : Prop where
  name : Text.OneLine f.name
  base : Text.OneLine f.type.base

namespace Header

/-! ### Reading lines -/

/-- A line is read from its characters. The tabs before it are its depth. -/
def Line.ofChars (cs : List Char) : Line :=
  ⟨(cs.takeWhile (· == '\t')).length, String.ofList (cs.dropWhile (· == '\t'))⟩

/-- The lines of a text. After the last line break there is one more line, which may be empty. -/
def textLines (text : String) : List Line :=
  (text.toList.splitOn '\n').map Line.ofChars

/-- A text that can be read back from a line: it has no line break and does not begin with a tab. -/
def IsLineText (text : String) : Prop :=
  OneLine text ∧ text.toList.head? ≠ some '\t'

theorem ofChars_render {l : Line} (h : l.text.toList.head? ≠ some '\t') :
    Line.ofChars (List.replicate l.depth '\t' ++ l.text.toList) = l := by
  have htabs : ∀ c ∈ List.replicate l.depth '\t', (c == '\t') = true := fun c hc => by
    simp [List.eq_of_mem_replicate hc]
  have htext : l.text.toList.takeWhile (· == '\t') = [] ∧
      l.text.toList.dropWhile (· == '\t') = l.text.toList := by
    cases hcs : l.text.toList with
    | nil => exact ⟨rfl, rfl⟩
    | cons c cs =>
      have hc : c ≠ '\t' := by simpa [hcs] using h
      simp [hc]
  rw [Line.ofChars, List.takeWhile_append_of_pos htabs, List.dropWhile_append_of_pos htabs, htext.1,
    htext.2, List.append_nil, List.length_replicate, String.ofList_toList]

theorem toList_renderLines (ls : List Line) :
    (renderLines ls).toList =
      (ls.map fun l => List.replicate l.depth '\t' ++ l.text.toList).flatMap (· ++ ['\n']) := by
  simp [renderLines, Line.render, List.flatMap_map]

/-- Lines are read back from their text. -/
theorem textLines_renderLines {ls : List Line} (h : ∀ l ∈ ls, IsLineText l.text) :
    textLines (renderLines ls) = ls ++ [⟨0, ""⟩] := by
  have hbreak : ∀ cs ∈ ls.map fun l => List.replicate l.depth '\t' ++ l.text.toList,
      '\n' ∉ cs := by
    intro cs hcs hmem
    obtain ⟨l, hl, rfl⟩ := List.mem_map.1 hcs
    obtain hmem | hmem := List.mem_append.1 hmem
    · exact absurd (List.eq_of_mem_replicate hmem) (by decide)
    · exact (h l hl).1 hmem
  have hread : ls.map (Line.ofChars ∘ fun l => List.replicate l.depth '\t' ++ l.text.toList) = ls :=
    (List.map_congr_left fun l hl => ofChars_render (h l hl).2).trans (List.map_id ls)
  rw [textLines, toList_renderLines, splitOn_flatMap_lines hbreak, List.map_append, List.map_map,
    hread]
  rfl

/-! ### Characters of statements -/

/-- The characters that expressions and statements are written with, besides the texts in them. -/
def codeChars : List Char :=
  "this->[__i]*&! == 0 != 0 && sizeof (), .new += ;delete[] return".toList

variable {q : Char → Prop}

theorem forall_codeChars {p : Char → Bool} (h : codeChars.all p = true)
    (hp : ∀ c, p c = true → q c) : ∀ c ∈ codeChars, q c := fun c hc =>
  hp c (List.all_eq_true.1 h c hc)

theorem allChars_of_code (hcode : ∀ c ∈ codeChars, q c) {text : String}
    (h : text.toList.all codeChars.contains = true) : AllChars q text := fun c hc =>
  hcode c (List.contains_iff_mem.1 (List.all_eq_true.1 h c hc))

theorem allChars_call (hcode : ∀ c ∈ codeChars, q c) {text : String} {args : List String}
    (htext : AllChars q text) (hargs : ∀ a ∈ args, AllChars q a) :
    AllChars q (text ++ "(" ++ ", ".intercalate args ++ ")") := by
  simp only [allChars_append_iff]
  exact ⟨⟨⟨htext, allChars_of_code hcode rfl⟩,
    allChars_intercalate (allChars_of_code hcode rfl) hargs⟩, allChars_of_code hcode rfl⟩

theorem allChars_parenthesize (hcode : ∀ c ∈ codeChars, q c) (needed : Bool) {text : String}
    (h : AllChars q text) : AllChars q (parenthesize needed text) := by
  cases needed with
  | false => exact h
  | true =>
    simp only [parenthesize, if_true, allChars_append_iff]
    exact ⟨⟨allChars_of_code hcode rfl, h⟩, allChars_of_code hcode rfl⟩

mutual

/-- The characters of an expression are those of its leaves and those of all code. -/
theorem Expr.allChars_text (hcode : ∀ c ∈ codeChars, q c) :
    (e : Expr) → e.AllTexts (AllChars q) → AllChars q e.text
  | .name _, h => h
  | .member _, h => allChars_append_iff.2 ⟨allChars_of_code hcode rfl, h⟩
  | .item a, h => allChars_append_iff.2 ⟨a.allChars_text hcode h, allChars_of_code hcode rfl⟩
  | .deref e, h => allChars_append_iff.2 ⟨allChars_of_code hcode rfl, e.allChars_text hcode h⟩
  | .address e, h => allChars_append_iff.2 ⟨allChars_of_code hcode rfl, e.allChars_text hcode h⟩
  | .negation e, h => allChars_append_iff.2 ⟨allChars_of_code hcode rfl, e.allChars_text hcode h⟩
  | .isUnset e, h => allChars_append_iff.2 ⟨e.allChars_text hcode h, allChars_of_code hcode rfl⟩
  | .isSet e, h => allChars_append_iff.2 ⟨e.allChars_text hcode h, allChars_of_code hcode rfl⟩
  | .both a b, ⟨ha, hb⟩ =>
    allChars_append_iff.2
      ⟨allChars_append_iff.2 ⟨a.allChars_text hcode ha, allChars_of_code hcode rfl⟩,
        b.allChars_text hcode hb⟩
  | .sizeOf e, h => allChars_append_iff.2 ⟨allChars_of_code hcode rfl, e.allChars_text hcode h⟩
  | .call _ args, ⟨hf, hargs⟩ => allChars_call hcode hf (allChars_argTexts hcode args hargs)
  | .onValue e _ args, ⟨he, hm, hargs⟩ =>
    allChars_call hcode
      (allChars_append_iff.2
        ⟨allChars_append_iff.2 ⟨allChars_parenthesize hcode _ (e.allChars_text hcode he),
          allChars_of_code hcode rfl⟩, hm⟩)
      (allChars_argTexts hcode args hargs)
  | .onPointer e _ args, ⟨he, hm, hargs⟩ =>
    allChars_call hcode
      (allChars_append_iff.2
        ⟨allChars_append_iff.2 ⟨allChars_parenthesize hcode _ (e.allChars_text hcode he),
          allChars_of_code hcode rfl⟩, hm⟩)
      (allChars_argTexts hcode args hargs)
  | .construct _ args, ⟨htype, hargs⟩ =>
    allChars_call hcode (allChars_append_iff.2 ⟨allChars_of_code hcode rfl, htype⟩)
      (allChars_argTexts hcode args hargs)
  | .constructArray _ count, ⟨htype, hcount⟩ => by
    have hcount := count.allChars_text hcode hcount
    simp only [Expr.text, allChars_append_iff]
    exact ⟨⟨⟨⟨allChars_of_code hcode rfl, htype⟩, allChars_of_code hcode rfl⟩, hcount⟩,
      allChars_of_code hcode rfl⟩

theorem allChars_argTexts (hcode : ∀ c ∈ codeChars, q c) :
    (es : List Expr) → AllArgTexts (AllChars q) es → ∀ t ∈ argTexts es, AllChars q t
  | [], _ => nofun
  | e :: es, ⟨he, hes⟩ =>
    List.forall_mem_cons.2 ⟨e.allChars_text hcode he, allChars_argTexts hcode es hes⟩

end

theorem Simple.allChars_text (hcode : ∀ c ∈ codeChars, q c) {s : Simple}
    (h : s.AllTexts (AllChars q)) : AllChars q s.text := by
  have hend : AllChars q ";" := allChars_of_code hcode rfl
  cases s with
  | declare type name value =>
    simp only [text, allChars_append_iff]
    exact ⟨⟨⟨⟨⟨h.1, allChars_of_code hcode rfl⟩, h.2.1⟩, allChars_of_code hcode rfl⟩,
      value.allChars_text hcode h.2.2⟩, hend⟩
  | assign target value =>
    simp only [text, allChars_append_iff]
    exact ⟨⟨⟨target.allChars_text hcode h.1, allChars_of_code hcode rfl⟩,
      value.allChars_text hcode h.2⟩, hend⟩
  | increase target value =>
    simp only [text, allChars_append_iff]
    exact ⟨⟨⟨target.allChars_text hcode h.1, allChars_of_code hcode rfl⟩,
      value.allChars_text hcode h.2⟩, hend⟩
  | run e => exact allChars_append_iff.2 ⟨e.allChars_text hcode h, hend⟩
  | free e =>
    exact allChars_append_iff.2
      ⟨allChars_append_iff.2 ⟨allChars_of_code hcode rfl, e.allChars_text hcode h⟩, hend⟩
  | freeArray e =>
    exact allChars_append_iff.2
      ⟨allChars_append_iff.2 ⟨allChars_of_code hcode rfl, e.allChars_text hcode h⟩, hend⟩
  | give e =>
    exact allChars_append_iff.2
      ⟨allChars_append_iff.2 ⟨allChars_of_code hcode rfl, e.allChars_text hcode h⟩, hend⟩

/-! ### Lines of a block -/

/-- What stands around the texts in the first and the last lines of inner blocks. -/
def frameText : String :=
  whenHead (.name "") ++ loopHead (.name "") ++ "\x7d"

/-- The characters of the lines of a block are those of its leaves and those of all code. -/
theorem Block.allChars_texts (hcode : ∀ c ∈ codeChars, q c) (hframe : AllChars q frameText)
    {b : Block} (h : b.AllTexts (AllChars q)) : ∀ t ∈ b.texts, AllChars q t := by
  obtain ⟨hheads, hclose⟩ := allChars_append_iff.1 hframe
  obtain ⟨hwhen, hloop⟩ := allChars_append_iff.1 hheads
  obtain ⟨hwhenStart, hwhenEnd⟩ := allChars_append_iff.1 hwhen
  obtain ⟨hloopStart, hloopEnd⟩ := allChars_append_iff.1 hloop
  have hif := (allChars_append_iff.1 hwhenStart).1
  have hfor := (allChars_append_iff.1 hloopStart).1
  induction b with
  | done => exact nofun
  | step s rest ih => exact List.forall_mem_cons.2 ⟨Simple.allChars_text hcode h.1, ih h.2⟩
  | «when» c body rest ihbody ihrest =>
    obtain ⟨hc, hbody, hrest⟩ := h
    have hhead : AllChars q (whenHead c) :=
      allChars_append_iff.2
        ⟨allChars_append_iff.2 ⟨hif, c.allChars_text hcode hc⟩, hwhenEnd⟩
    simp only [texts_when, List.forall_mem_cons, List.forall_mem_append]
    exact ⟨hhead, ihbody hbody, hclose, ihrest hrest⟩
  | each n body rest ihbody ihrest =>
    obtain ⟨hn, hbody, hrest⟩ := h
    have hhead : AllChars q (loopHead n) :=
      allChars_append_iff.2
        ⟨allChars_append_iff.2 ⟨hfor, n.allChars_text hcode hn⟩, hloopEnd⟩
    simp only [texts_each, List.forall_mem_cons, List.forall_mem_append]
    exact ⟨hhead, ihbody hbody, hclose, ihrest hrest⟩

/-- The lines of a block have no line breaks if its leaves have none. -/
theorem Block.oneLine_texts {b : Block} (h : b.AllTexts OneLine) : ∀ t ∈ b.texts, OneLine t := by
  have hcode : ∀ c ∈ codeChars, c ≠ '\n' := forall_codeChars (p := (· != '\n')) rfl (by simp)
  have hframe : OneLine frameText := by decide +kernel
  rw [oneLine_eq] at h hframe ⊢
  exact Block.allChars_texts hcode hframe h

/-! ### Lines of a class -/

theorem isLineText_of_unbroken {text : String} (h : Unbroken text) : IsLineText text :=
  ⟨fun hmem => (h _ hmem).2 rfl, fun hhead => (h _ (List.mem_of_head? hhead)).1 rfl⟩

theorem unbroken_append_iff {a b : String} : Unbroken (a ++ b) ↔ Unbroken a ∧ Unbroken b :=
  allChars_append_iff

theorem unbroken_commas {α : Type} {write : α → String} {l : List α}
    (h : ∀ a ∈ l, Unbroken (write a)) : Unbroken (commas (l.map write)) :=
  allChars_intercalate (by decide : Unbroken ", ") (List.forall_mem_map.2 h)

theorem unbroken_hexByte (b : UInt8) : Unbroken (hexByte b) :=
  allChars_hexByte (by decide : Unbroken "0x") (by decide) b

theorem unbroken_tagConstant {m : PlannedMessage} (h : Unbroken m.name) :
    Unbroken (tagConstant m) := by
  have htable : ∀ n ∈ [9, 10], n ≠ 0 ∧ Case.Avoids Case.upperSpecial Case.upperRanges n := by
    decide +kernel
  refine unbroken_append_iff.2 ⟨by decide, allChars_ofList_iff.2 fun c hc => ⟨?_, ?_⟩⟩
  · rintro rfl
    obtain ⟨hn, havoids⟩ := htable 9 (by decide)
    exact (h _ (mem_of_mem_upper hn havoids hc rfl)).1 rfl
  · rintro rfl
    obtain ⟨hn, havoids⟩ := htable 10 (by decide)
    exact (h _ (mem_of_mem_upper hn havoids hc rfl)).2 rfl

section Classes

variable {fields : List PlannedField} (h : ∀ f ∈ fields, MemberTexts Unbroken f)

include h

theorem unbroken_declarations : ∀ l ∈ declarations fields, Unbroken l.text := by
  refine List.forall_mem_map.2 fun m hm => ?_
  obtain ⟨htype, hname⟩ := MemberTexts.members (by decide) h m hm
  refine unbroken_append_iff.2
    ⟨unbroken_append_iff.2 ⟨unbroken_append_iff.2 ⟨htype, by decide⟩, hname⟩, ?_⟩
  cases m.zeroed <;> decide

theorem unbroken_routineLines (isMessage rollback : Bool) :
    ∀ l ∈ routineLines isMessage rollback fields, Unbroken l.text := by
  have hwords : ∀ w ∈ routineWords, Unbroken w := by decide +kernel
  have hcode : Unbroken (String.ofList codeChars) := by decide +kernel
  have hframe : Unbroken frameText := by decide +kernel
  have hsignature : ∀ r ∈ routines isMessage rollback fields,
      Unbroken (r.signature ++ " \x7b") := by
    simp only [routines, lengthRoutine, deserializeRoutine, serializeRoutine, disposeRoutine,
      List.forall_mem_cons, List.not_mem_nil, false_implies, implies_true, and_true]
    decide +kernel
  have hbody := allTexts_routines hwords (fun f hf => (h f hf).texts) isMessage rollback
  intro l hl
  obtain ⟨r, hr, hl⟩ := List.mem_flatMap.1 hl
  have hmem := List.mem_map_of_mem (f := Line.text) hl
  rw [Routine.map_text_lines, List.mem_cons, List.mem_append, List.mem_singleton] at hmem
  obtain heq | hmem | heq := hmem
  · rw [heq]
    exact hsignature r hr
  · exact Block.allChars_texts (allChars_ofList_iff.1 hcode) hframe (hbody r hr) _ hmem
  · rw [heq]
    decide

end Classes

theorem unbroken_objectConstructors {o : PlannedObject} (hname : Unbroken o.name)
    (h : ∀ f ∈ o.fields, MemberTexts Unbroken f) :
    ∀ l ∈ objectConstructors o, Unbroken l.text := by
  have hmembers := MemberTexts.members (by decide : Unbroken "unsigned char") h
  have hvalues : Unbroken (commas ((o.fields.flatMap members).map Member.firstValue)) :=
    unbroken_commas fun m hm => unbroken_append_iff.2
      ⟨(hmembers m hm).2, by cases m.zeroed <;> decide⟩
  have hparameters : Unbroken (commas ((o.fields.flatMap members).map Member.parameter)) :=
    unbroken_commas fun m hm => unbroken_append_iff.2
      ⟨unbroken_append_iff.2 ⟨(hmembers m hm).1, by decide⟩, (hmembers m hm).2⟩
  have hinitialisers : Unbroken (commas ((o.fields.flatMap members).map Member.fromParameter)) := by
    refine unbroken_commas fun m hm => ?_
    have hm := (hmembers m hm).2
    simp only [Member.fromParameter, unbroken_append_iff]
    exact ⟨⟨⟨hm, by decide⟩, hm⟩, by decide⟩
  unfold objectConstructors
  dsimp only
  split_ifs
  · simp only [List.forall_mem_singleton, unbroken_append_iff]
    exact ⟨hname, by decide⟩
  · simp only [List.forall_mem_cons, unbroken_append_iff]
    exact ⟨⟨⟨⟨hname, by decide⟩, hvalues⟩, by decide⟩,
      ⟨⟨⟨⟨⟨hname, by decide⟩, hparameters⟩, by decide⟩, hinitialisers⟩, by decide⟩,
      List.forall_mem_nil _⟩

theorem unbroken_objectLines {o : PlannedObject} (hname : Unbroken o.name)
    (h : ∀ f ∈ o.fields, MemberTexts Unbroken f) (rollback : Bool) :
    ∀ l ∈ objectLines rollback o, Unbroken l.text := by
  have hhead : Unbroken ("class " ++ o.name ++ " : public ISerializable \x7b") :=
    unbroken_append_iff.2 ⟨unbroken_append_iff.2 ⟨by decide, hname⟩, by decide⟩
  simp only [objectLines, List.forall_mem_append, List.forall_mem_cons]
  exact ⟨⟨⟨⟨⟨⟨hhead, by decide, List.forall_mem_nil _⟩, unbroken_declarations h⟩,
    unbroken_objectConstructors hname h⟩, by decide, List.forall_mem_nil _⟩,
    unbroken_routineLines h false rollback⟩, by decide, by decide, List.forall_mem_nil _⟩

theorem unbroken_typeMethod {m : PlannedMessage} (hname : Unbroken m.name) :
    Unbroken (typeMethod m).text :=
  unbroken_append_iff.2
    ⟨unbroken_append_iff.2 ⟨by decide, unbroken_tagConstant hname⟩, by decide⟩

theorem unbroken_messageClass {m : PlannedMessage} (hname : Unbroken m.name)
    (h : ∀ f ∈ m.fields, MemberTexts Unbroken f) (rollback : Bool) :
    ∀ l ∈ messageClass rollback m, Unbroken l.text := by
  have hhead : Unbroken ("class " ++ m.name ++ "Message : public Message \x7b") :=
    unbroken_append_iff.2 ⟨unbroken_append_iff.2 ⟨by decide, hname⟩, by decide⟩
  have hfirst : Unbroken (m.name ++ "Message() : ver(" ++ hexByte m.version ++ ") \x7b\x7d") :=
    unbroken_append_iff.2 ⟨unbroken_append_iff.2 ⟨unbroken_append_iff.2 ⟨hname, by decide⟩,
      unbroken_hexByte m.version⟩, by decide⟩
  have hgiven : Unbroken (m.name ++ "Message(unsigned char ver) : ver(ver) \x7b\x7d") :=
    unbroken_append_iff.2 ⟨hname, by decide⟩
  simp only [messageClass, List.forall_mem_append, List.forall_mem_cons]
  exact ⟨⟨⟨⟨⟨hhead, by decide, by decide, hfirst, hgiven, List.forall_mem_nil _⟩,
    unbroken_declarations h⟩, by decide, unbroken_typeMethod hname, by decide,
    List.forall_mem_nil _⟩, unbroken_routineLines h true rollback⟩, by decide,
    List.forall_mem_nil _⟩

theorem unbroken_factoryClass {m : PlannedMessage} (hname : Unbroken m.name) :
    ∀ l ∈ factoryClass m, Unbroken l.text := by
  have hhead : Unbroken ("class " ++ m.name ++ "MessageFactory : public MessageFactory \x7b") :=
    unbroken_append_iff.2 ⟨unbroken_append_iff.2 ⟨by decide, hname⟩, by decide⟩
  have hget : Unbroken ("Message* get(unsigned char ver) \x7b return new " ++ m.name ++
      "Message(ver); \x7d") :=
    unbroken_append_iff.2 ⟨unbroken_append_iff.2 ⟨by decide, hname⟩, by decide⟩
  simp only [factoryClass, List.forall_mem_cons]
  exact ⟨hhead, by decide, unbroken_typeMethod hname, hget, by decide, List.forall_mem_nil _⟩

theorem unbroken_messageLines {m : PlannedMessage} (hname : Unbroken m.name)
    (h : ∀ f ∈ m.fields, MemberTexts Unbroken f) (rollback : Bool) :
    ∀ l ∈ messageLines rollback m, Unbroken l.text := by
  have htag : Unbroken ("#define " ++ tagConstant m ++ " " ++ hexByte m.id) :=
    unbroken_append_iff.2 ⟨unbroken_append_iff.2 ⟨unbroken_append_iff.2
      ⟨by decide, unbroken_tagConstant hname⟩, by decide⟩, unbroken_hexByte m.id⟩
  simp only [messageLines, List.forall_mem_append, List.forall_mem_cons]
  exact ⟨⟨⟨⟨htag, by decide, List.forall_mem_nil _⟩, unbroken_messageClass hname h rollback⟩,
    unbroken_factoryClass hname⟩, by decide, List.forall_mem_nil _⟩

/-! ### Lines of a header -/

/-- The lines of the macro hold tabs, but do not begin with one. -/
theorem isLineText_registerLines {messages : List PlannedMessage}
    (hnames : ∀ m ∈ messages, Unbroken m.name) :
    ∀ l ∈ registerLines messages, IsLineText l.text := by
  simp only [registerLines, List.forall_mem_append, List.forall_mem_cons, List.forall_mem_map]
  refine ⟨⟨⟨by decide, by decide⟩, fun m hm => ⟨?_, ?_⟩⟩, ⟨by decide, by decide⟩,
    List.forall_mem_nil _⟩
  · exact oneLine_append_iff.2
      ⟨oneLine_append_iff.2 ⟨by decide, (isLineText_of_unbroken (hnames m hm)).1⟩, by decide⟩
  · have hhead : ("p.addFactory(new " ++ m.name ++ "MessageFactory());\t\\").toList.head? =
        some 'p' := by
      rw [String.toList_append, String.toList_append]
      rfl
    rw [hhead]
    decide

/-- All lines of a header can be read back from its text, if the texts of the plan and of the
settings hold neither tabs nor line breaks. -/
theorem isLineText_lines {s : HeaderSettings} (hs : ∀ t ∈ s.texts, Unbroken t) {p : Plan}
    (hp : PlanTexts Unbroken p) (rollback : Bool) :
    ∀ l ∈ lines s rollback p, IsLineText l.text := by
  obtain ⟨hguard, hcore, hspace⟩ :
      Unbroken s.includeGuard ∧ Unbroken s.coreHeader ∧ Unbroken s.space := by
    simpa [HeaderSettings.texts] using hs
  have hopening : ∀ l ∈ [(⟨0, "#ifndef " ++ s.includeGuard⟩ : Line),
      ⟨0, "#define " ++ s.includeGuard⟩, blank, ⟨0, "#include \"" ++ s.coreHeader ++ "\""⟩, blank,
      ⟨0, "namespace " ++ s.space ++ " \x7b"⟩], Unbroken l.text := by
    simp only [List.forall_mem_cons]
    exact ⟨unbroken_append_iff.2 ⟨by decide, hguard⟩, unbroken_append_iff.2 ⟨by decide, hguard⟩,
      by decide, unbroken_append_iff.2 ⟨unbroken_append_iff.2 ⟨by decide, hcore⟩, by decide⟩,
      by decide, unbroken_append_iff.2 ⟨unbroken_append_iff.2 ⟨by decide, hspace⟩, by decide⟩,
      List.forall_mem_nil _⟩
  have hobjects : ∀ l ∈ p.objects.flatMap (objectLines rollback), Unbroken l.text :=
    List.forall_mem_flatMap.2 fun o ho =>
      unbroken_objectLines (hp.objects o ho).1 (hp.objects o ho).2 rollback
  have hmessages : ∀ l ∈ p.messages.flatMap (messageLines rollback), Unbroken l.text :=
    List.forall_mem_flatMap.2 fun m hm =>
      unbroken_messageLines (hp.messages m hm).1 (hp.messages m hm).2 rollback
  have hregister := isLineText_registerLines fun m hm => (hp.messages m hm).1
  have hend : ∀ l ∈ [(⟨0, "\x7d"⟩ : Line), ⟨0, "#endif"⟩], Unbroken l.text := by decide
  simp only [lines, List.forall_mem_append]
  exact ⟨⟨⟨⟨fun l hl => isLineText_of_unbroken (hopening l hl),
    fun l hl => isLineText_of_unbroken (hobjects l hl)⟩,
    fun l hl => isLineText_of_unbroken (hmessages l hl)⟩, hregister⟩,
    fun l hl => isLineText_of_unbroken (hend l hl)⟩

/-- The lines of the header of a schema are read back from its text, if no text of the schema and no
name in the settings holds a tab or a line break. -/
theorem textLines_lines {d : Definitions} {s : Settings} {p : Plan}
    (h : (Plan.make d s.generate).outcome = .ok p)
    (htexts : ∀ t ∈ d.texts ++ s.header.texts, Unbroken t) :
    textLines (renderLines (lines s.header s.generate.rollback p)) =
      lines s.header s.generate.rollback p ++ [⟨0, ""⟩] := by
  have hown : Unbroken (String.ofList FieldType.ownChars) := by decide +kernel
  rw [List.forall_mem_append] at htexts
  have hplan := planTexts_make (allChars_ofList_iff.1 hown) (by decide : Unbroken (countName "")) h
    htexts.1
  exact textLines_renderLines (isLineText_lines htexts.2 hplan s.generate.rollback)

end Header

/-! ### Fields -/

namespace PlannedField

theorem ne_lineBreak_of_mem_ownChars {c : Char} (h : c ∈ FieldType.ownChars) : c ≠ '\n' := by
  have hown : FieldType.ownChars.all (· != '\n') = true := by decide +kernel
  exact bne_iff_ne.1 (List.all_eq_true.1 hown c h)

/-- A field whose name and type text have no line break. -/
theorem oneLine_make (matching : Matching) {name type : String} (index : Nat)
    (hname : Text.OneLine name) (htype : Text.OneLine type) :
    (make matching name index type).OneLine where
  name := hname
  base := by
    rw [oneLine_eq] at htype ⊢
    exact FieldType.allChars_base matching (fun _ => ne_lineBreak_of_mem_ownChars) htype

theorem OneLine.fieldTexts {f : PlannedField} (h : f.OneLine) :
    Header.FieldTexts Text.OneLine f where
  name := h.name
  count := by
    simp only [Header.countName, oneLine_append_iff]
    exact ⟨⟨by decide, h.name⟩, by decide⟩
  pointer n := by
    refine oneLine_append_iff.2 ⟨h.base, ?_⟩
    rw [oneLine_eq]
    exact FieldType.allChars_stars (fun _ => ne_lineBreak_of_mem_ownChars) n

end PlannedField

end WireSchema
