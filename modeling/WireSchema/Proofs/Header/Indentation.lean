import Mathlib.Tactic.Common
import WireSchema.Proofs.Header.Rollback

/-!
# Indentation in emitted C++ routines

The lines of a routine are written at the depths of their blocks. In the text that comes out, the
tabs before a line say how many braces are open where the line begins, and a line that begins with a
closing brace stands one tab further left. This can be read off the characters of the text alone, as
long as the names and the types of the fields bring no braces and no line breaks of their own.

## Main definitions

* `Text.IsInline`, `PlannedField.IsInline`: a character that is neither a brace nor a line break,
  and a field without such characters.
* `Header.openBraces`: the braces that lines open and do not close.
* `Header.Indented`: lines whose depths follow their braces.
* `Header.Block.openings`: the texts that the statements of a block begin with.

## Main results

* `Header.Block.indented_lines`: the lines of a block are indented, and close all their braces.
* `Header.openings_routines`: how the statements of the routines begin.
* `Header.indentation_eq_nesting`: the indentation of the text of the routines.
-/

namespace WireSchema

/-- A character that is neither a brace nor a line break. -/
def Text.IsInline (c : Char) : Prop :=
  c ≠ '\x7b' ∧ c ≠ '\x7d' ∧ c ≠ '\n'

instance : DecidablePred Text.IsInline := fun c =>
  inferInstanceAs (Decidable (c ≠ '\x7b' ∧ c ≠ '\x7d' ∧ c ≠ '\n'))

/-- A field whose type is read from a text, where neither its name nor the text has a brace or a
line break. -/
structure PlannedField.IsInline (f : PlannedField) : Prop where
  read : ∃ matching, f.type = .read matching f.type.written
  name : Text.AllChars Text.IsInline f.name
  type : Text.AllChars Text.IsInline f.type.written

namespace Header

open Block Text

/-! ### Braces of lines -/

/-- The braces that a line opens, less the braces that it closes. -/
def Line.braces (l : Line) : Int :=
  l.text.toList.count '\x7b' - l.text.toList.count '\x7d'

/-- Does a line begin with a closing brace? -/
def Line.closes (l : Line) : Bool :=
  l.text.toList.head? == some '\x7d'

/-- The braces that lines open, less the braces that they close. -/
def openBraces : List Line → Int
  | [] => 0
  | l :: ls => l.braces + openBraces ls

/-- The depth of each line is `depth` and the number of braces that the lines before it leave open,
less one if the line begins with a closing brace. -/
def Indented (depth : Int) : List Line → Prop
  | [] => True
  | l :: ls => l.depth = depth - (if l.closes then 1 else 0) ∧ Indented (depth + l.braces) ls

theorem openBraces_cons (l : Line) (ls : List Line) :
    openBraces (l :: ls) = l.braces + openBraces ls := rfl

theorem openBraces_append (ls ls' : List Line) :
    openBraces (ls ++ ls') = openBraces ls + openBraces ls' := by
  induction ls with
  | nil => exact (Int.zero_add _).symm
  | cons l ls ih => rw [List.cons_append, openBraces_cons, openBraces_cons, ih, Int.add_assoc]

theorem indented_append_iff {depth : Int} {ls ls' : List Line} :
    Indented depth (ls ++ ls') ↔ Indented depth ls ∧ Indented (depth + openBraces ls) ls' := by
  induction ls generalizing depth with
  | nil => simp [Indented, openBraces]
  | cons l ls ih =>
    rw [List.cons_append, Indented, Indented, ih, openBraces_cons, and_assoc, Int.add_assoc]

theorem Indented.depth_eq {depth : Int} {before after : List Line} {l : Line}
    (h : Indented depth (before ++ l :: after)) :
    l.depth = depth + openBraces before - if l.closes then 1 else 0 :=
  (indented_append_iff.1 h).2.1

/-- A row of lines that are indented at a depth and close all the braces that they open. -/
structure Enclosed (depth : Nat) (ls : List Line) : Prop where
  indented : Indented depth ls
  balanced : openBraces ls = 0

theorem Enclosed.nil (depth : Nat) : Enclosed depth [] := ⟨trivial, rfl⟩

theorem Enclosed.append {depth : Nat} {ls ls' : List Line} (h : Enclosed depth ls)
    (h' : Enclosed depth ls') : Enclosed depth (ls ++ ls') where
  indented := by
    rw [indented_append_iff, h.balanced, Int.add_zero]
    exact ⟨h.indented, h'.indented⟩
  balanced := by rw [openBraces_append, h.balanced, h'.balanced, Int.add_zero]

theorem Enclosed.flatMap {α : Type} {write : α → List Line} {depth : Nat} {l : List α}
    (h : ∀ a ∈ l, Enclosed depth (write a)) : Enclosed depth (l.flatMap write) := by
  induction l with
  | nil => exact .nil depth
  | cons a l ih =>
    rw [List.forall_mem_cons] at h
    exact h.1.append (ih h.2)

/-! ### Lines of blocks -/

theorem count_eq_zero_of_isInline {text : String} (h : AllChars IsInline text) :
    text.toList.count '\x7b' = 0 ∧ text.toList.count '\x7d' = 0 :=
  ⟨List.count_eq_zero.2 fun hc => (h _ hc).1 rfl, List.count_eq_zero.2 fun hc => (h _ hc).2.1 rfl⟩

theorem closes_eq_false {l : Line} (h : '\x7d' ∉ l.text.toList) : l.closes = false :=
  beq_eq_false_iff_ne.2 fun heq => h (List.mem_of_mem_head? heq)

/-- A line without braces stands at the depth of its block. -/
theorem Enclosed.cons {depth : Nat} {text : String} {ls : List Line} (h : AllChars IsInline text)
    (hls : Enclosed depth ls) : Enclosed depth (⟨depth, text⟩ :: ls) := by
  obtain ⟨hopen, hclose⟩ := count_eq_zero_of_isInline h
  have hbraces : (Line.mk depth text).braces = 0 := by simp [Line.braces, hopen, hclose]
  have hcloses : (Line.mk depth text).closes = false :=
    closes_eq_false (List.count_eq_zero.1 hclose)
  refine ⟨⟨by simp [hcloses], ?_⟩, ?_⟩
  · rw [hbraces, Int.add_zero]
    exact hls.indented
  · rw [openBraces_cons, hbraces, hls.balanced, Int.add_zero]

/-- Lines between a line that opens a brace at its end and the line that closes it, with lines after
them. -/
theorem Enclosed.block {depth : Nat} {head : String} {body rest : List Line}
    (hhead : AllChars IsInline head) (hbody : Enclosed (depth + 1) body)
    (hrest : Enclosed depth rest) :
    Enclosed depth (⟨depth, head ++ "\x7b"⟩ :: body ++ ⟨depth, "\x7d"⟩ :: rest) := by
  obtain ⟨hopen, hclose⟩ := count_eq_zero_of_isInline hhead
  have hbraces : (Line.mk depth (head ++ "\x7b")).braces = 1 := by
    simp [Line.braces, hopen, hclose]
  have hcloses : (Line.mk depth (head ++ "\x7b")).closes = false :=
    closes_eq_false (by simpa using List.count_eq_zero.1 hclose)
  have hend : (Line.mk depth "\x7d").braces = -1 := by simp [Line.braces]
  have hendCloses : (Line.mk depth "\x7d").closes = true := by simp [Line.closes]
  have hindented := hbody.indented
  push_cast at hindented
  constructor
  · rw [List.cons_append, Indented, indented_append_iff, Indented, hbraces, hcloses, hbody.balanced,
      hend, hendCloses, Int.add_zero, Int.add_neg_cancel_right]
    exact ⟨by simp, hindented, by simp, hrest.indented⟩
  · rw [List.cons_append, openBraces_cons, openBraces_append, openBraces_cons, hbraces, hend,
      hbody.balanced, hrest.balanced]
    rfl

theorem isInline_of_mem_codeChars : ∀ c ∈ codeChars, IsInline c :=
  forall_codeChars (p := fun c => decide (IsInline c)) rfl fun _ => of_decide_eq_true

theorem allChars_isInline {text : String} (h : text.toList.all (IsInline ·) = true) :
    AllChars IsInline text := fun c hc =>
  of_decide_eq_true (List.all_eq_true.1 h c hc)

/-- The lines of a block are indented and close all their braces, if its leaves have none. -/
theorem Block.indented_lines {b : Block} (h : b.AllTexts (AllChars IsInline)) (depth : Nat) :
    Enclosed depth (b.lines depth) := by
  induction b generalizing depth with
  | done => exact .nil depth
  | step s rest ih =>
    exact .cons (Simple.allChars_text isInline_of_mem_codeChars h.1) (ih h.2 depth)
  | «when» c body rest ihbody ihrest =>
    obtain ⟨hc, hbody, hrest⟩ := h
    have hcondition := c.allChars_text isInline_of_mem_codeChars hc
    have hhead : AllChars IsInline ("if (" ++ c.text ++ ") ") := by
      simp only [allChars_append_iff]
      exact ⟨⟨allChars_isInline rfl, hcondition⟩, allChars_isInline rfl⟩
    have heq : whenHead c = "if (" ++ c.text ++ ") " ++ "\x7b" :=
      String.toList_injective (by simp [whenHead])
    rw [lines, heq]
    exact .block hhead (ihbody hbody (depth + 1)) (ihrest hrest depth)
  | each n body rest ihbody ihrest =>
    obtain ⟨hn, hbody, hrest⟩ := h
    have hcount := n.allChars_text isInline_of_mem_codeChars hn
    have hhead : AllChars IsInline
        ("for (unsigned char __i = 0; __i < " ++ n.text ++ "; __i++) ") := by
      simp only [allChars_append_iff]
      exact ⟨⟨allChars_isInline rfl, hcount⟩, allChars_isInline rfl⟩
    have hend : "; __i++) \x7b" = "; __i++) " ++ "\x7b" := by decide
    have heq : loopHead n =
        "for (unsigned char __i = 0; __i < " ++ n.text ++ "; __i++) " ++ "\x7b" := by
      rw [String.append_assoc, ← hend]
      rfl
    rw [lines, heq]
    exact .block hhead (ihbody hbody (depth + 1)) (ihrest hrest depth)

theorem Routine.indented_lines {r : Routine} (hsignature : AllChars IsInline r.signature)
    (hbody : r.body.AllTexts (AllChars IsInline)) (depth : Nat) :
    Enclosed depth (r.lines depth) := by
  have hhead : AllChars IsInline (r.signature ++ " ") :=
    allChars_append_iff.2 ⟨hsignature, allChars_isInline rfl⟩
  have heq : r.signature ++ " \x7b" = r.signature ++ " " ++ "\x7b" :=
    String.toList_injective (by simp)
  rw [Routine.lines, heq]
  exact .block hhead (Block.indented_lines hbody (depth + 1)) (.nil depth)

/-! ### How statements begin -/

/-- The text that an expression begins with. -/
def Expr.opening : Expr → String
  | .name s => s
  | .member _ => "this->"
  | .item a => a.opening
  | .deref _ => "*"
  | .address _ => "&"
  | .negation _ => "!"
  | .isUnset e => e.opening
  | .isSet e => e.opening
  | .both a _ => a.opening
  | .sizeOf _ => "sizeof "
  | .call f _ => f
  | .onValue e _ _ => if e.needsParens then "(" else e.opening
  | .onPointer e _ _ => if e.needsParens then "(" else e.opening
  | .construct _ _ => "new "
  | .constructArray _ _ => "new "

/-- The text that a statement on one line begins with. -/
def Simple.opening : Simple → String
  | declare type _ _ => type
  | assign target _ => target.opening
  | increase target _ => target.opening
  | run e => e.opening
  | free _ => "delete "
  | freeArray _ => "delete[] "
  | give _ => "return "

/-- The texts that the statements on one line of a block begin with. -/
def Block.openings : Block → List String
  | done => []
  | step s rest => s.opening :: rest.openings
  | .when _ body rest => body.openings ++ rest.openings
  | each _ body rest => body.openings ++ rest.openings

theorem prefix_parenthesize {needed : Bool} {opening text : String}
    (h : opening.toList <+: text.toList) :
    (if needed then "(" else opening).toList <+: (parenthesize needed text).toList := by
  cases needed with
  | false => exact h
  | true => simp [parenthesize]

/-- An expression begins with its opening. -/
theorem Expr.opening_isPrefix : (e : Expr) → e.opening.toList <+: e.text.toList
  | .name _ => List.prefix_rfl
  | .member _ => by simp [opening, text]
  | .item a => by
    rw [text, String.toList_append]
    exact a.opening_isPrefix.trans (List.prefix_append _ _)
  | .deref _ => by simp [opening, text]
  | .address _ => by simp [opening, text]
  | .negation _ => by simp [opening, text]
  | .isUnset e => by
    rw [text, String.toList_append]
    exact e.opening_isPrefix.trans (List.prefix_append _ _)
  | .isSet e => by
    rw [text, String.toList_append]
    exact e.opening_isPrefix.trans (List.prefix_append _ _)
  | .both a b => by
    simp only [text, String.toList_append, List.append_assoc]
    exact a.opening_isPrefix.trans (List.prefix_append _ _)
  | .sizeOf _ => by simp [opening, text]
  | .call _ _ => by simp [opening, text]
  | .onValue e _ _ => by
    simp only [text, String.toList_append, List.append_assoc]
    exact (prefix_parenthesize e.opening_isPrefix).trans (List.prefix_append _ _)
  | .onPointer e _ _ => by
    simp only [text, String.toList_append, List.append_assoc]
    exact (prefix_parenthesize e.opening_isPrefix).trans (List.prefix_append _ _)
  | .construct _ _ => by simp [opening, text]
  | .constructArray _ _ => by simp [opening, text]

theorem Simple.opening_isPrefix (s : Simple) : s.opening.toList <+: s.text.toList := by
  cases s with
  | assign target value =>
    simp only [text, String.toList_append, List.append_assoc]
    exact target.opening_isPrefix.trans (List.prefix_append _ _)
  | increase target value =>
    simp only [text, String.toList_append, List.append_assoc]
    exact target.opening_isPrefix.trans (List.prefix_append _ _)
  | run e =>
    rw [text, String.toList_append]
    exact e.opening_isPrefix.trans (List.prefix_append _ _)
  | _ => simp [opening, text]

namespace Block

@[simp]
theorem openings_append (b b' : Block) : (b ++ b').openings = b.openings ++ b'.openings := by
  change (b.append b').openings = _
  induction b with
  | done => rfl
  | step s rest ih => simp only [append, openings, ih, List.cons_append]
  | «when» c body rest _ ih => simp only [append, openings, ih, List.append_assoc]
  | each n body rest _ ih => simp only [append, openings, ih, List.append_assoc]

@[simp]
theorem openings_ofList (ss : List Simple) : (ofList ss).openings = ss.map Simple.opening := by
  induction ss with
  | nil => rfl
  | cons s ss ih => simp only [ofList, openings, ih, List.map_cons]

@[simp]
theorem openings_concat (bs : List Block) : (concat bs).openings = bs.flatMap openings := by
  induction bs with
  | nil => rfl
  | cons b bs ih => rw [concat, openings_append, ih, List.flatMap_cons]

end Block

/-- The texts that the statements of all routines begin with. -/
def openingWords : List String :=
  ["unsigned char", "len", "return ", "this", "this->", "(", "serializer", "Message::serialize",
   "delete ", "delete[] "]

attribute [local simp] Expr.opening Simple.opening Block.openings

theorem mem_openingWords_invoke {e : Expr} (he : e.opening = "this->")
    (hparens : e.needsParens = false) (depth : Nat) (method : String) (args : List Expr) :
    (invoke e depth method args).opening ∈ openingWords := by
  match depth with
  | 0 => simp [invoke, hparens, he, openingWords]
  | 1 => simp [invoke, through, hparens, he, openingWords]
  | n + 2 => simp [invoke, through, Expr.needsParens, openingWords]

theorem openings_failure (rollback : Bool) :
    ∀ t ∈ (failure rollback).openings, t ∈ openingWords := by
  cases rollback <;> decide

theorem openings_lengthOf (f : PlannedField) : ∀ t ∈ (lengthOf f).openings, t ∈ openingWords := by
  have hopenings : (lengthOf f).openings = ["len"] := by
    unfold lengthOf
    cases f.kind with
    | builtin => cases f.disposable <;> rfl
    | _ => rfl
  rw [hopenings]
  decide

theorem openings_readOf (rollback : Bool) (f : PlannedField) :
    ∀ t ∈ (readOf rollback f).openings, t ∈ openingWords := by
  have hfailure := openings_failure rollback
  have hmember : "this->" ∈ openingWords := by decide
  cases hkind : f.kind with
  | builtin => simpa [readOf, hkind] using hfailure
  | array =>
    have hcount : "unsigned char" ∈ openingWords := by decide
    simp only [readOf, hkind]
    by_cases hdepth : 0 < f.type.depth <;>
      simpa [readCount, readItem, orFail, allocateAt, hdepth, target, itemOf, countOf, hmember,
        hcount, or_imp, forall_and] using hfailure
  | pointer =>
    simpa [readOf, hkind, orFail, allocateAt, target, hmember] using hfailure
  | nested => simpa [readOf, hkind, orFail] using hfailure

theorem openings_writeOf (f : PlannedField) : ∀ t ∈ (writeOf f).openings, t ∈ openingWords := by
  have hcall := fun {e : Expr} he hp depth => mem_openingWords_invoke (e := e) he hp depth
    "serialize" [serializer, stream]
  have hscalar : "serializer" ∈ openingWords := by decide
  unfold writeOf
  cases f.kind with
  | builtin => simp [writeScalar, serializer, Expr.needsParens, hscalar]
  | array =>
    simpa [writeScalar, serializeCall, serializer, Expr.needsParens, hscalar] using
      hcall (e := itemOf f) rfl rfl f.type.depth
  | pointer => simpa [serializeCall] using hcall (e := target f) rfl rfl f.type.depth
  | nested => simpa [serializeCall] using hcall (e := target f) rfl rfl 0

theorem openings_release (e : Expr) (depth : Nat) :
    ∀ s ∈ release e depth, s.opening ∈ openingWords := by
  induction depth with
  | zero => exact nofun
  | succ n ih => exact List.forall_mem_cons.2 ⟨by simp [openingWords], ih⟩

theorem openings_disposeItem (f : PlannedField) :
    ∀ t ∈ (disposeItem f).openings, t ∈ openingWords := by
  have hcall := mem_openingWords_invoke (e := itemOf f) rfl rfl f.type.depth "dispose" []
  unfold disposeItem
  split_ifs
  · simpa using hcall
  · simpa [whenSet, hcall] using openings_release (itemOf f) f.type.depth

theorem openings_disposeOf (f : PlannedField) :
    ∀ t ∈ (disposeOf f).openings, t ∈ openingWords := by
  have hassign : (Simple.assign (target f) zero).opening ∈ openingWords := by
    simp [target, openingWords]
  have hfree : (Simple.freeArray (target f)).opening ∈ openingWords := by simp [openingWords]
  have hrelease := openings_release (target f) f.type.depth
  unfold disposeOf
  cases f.kind with
  | builtin =>
    have hbody : ∀ s ∈ if f.type.isArray then [.freeArray (target f)]
        else release (target f) f.type.depth, s.opening ∈ openingWords := by
      split_ifs
      · exact List.forall_mem_singleton.2 hfree
      · exact hrelease
    cases f.disposable with
    | false => exact List.forall_mem_nil _
    | true =>
      simp only [if_true, whenSet, Block.openings, openings_ofList, List.append_nil,
        List.forall_mem_map, List.forall_mem_append, List.forall_mem_singleton]
      exact ⟨hbody, hassign⟩
  | nested => exact List.forall_mem_nil _
  | array =>
    have hcount : (Simple.assign (countOf f) zero).opening ∈ openingWords := by
      simp [countOf, openingWords]
    simp only [whenSet, Block.openings, openings_ofList, List.append_nil, List.forall_mem_append,
      List.forall_mem_map, List.forall_mem_cons]
    exact ⟨openings_disposeItem f, hfree, hassign, hcount, List.forall_mem_nil _⟩
  | pointer =>
    simp only [whenSet, Block.openings, openings_ofList, List.append_nil, List.forall_mem_map,
      List.forall_mem_append, List.forall_mem_singleton]
    exact ⟨hrelease, hassign⟩

/-- Every statement of the routines begins with one of the same few words. -/
theorem openings_routines (isMessage rollback : Bool) (fields : List PlannedField) :
    ∀ r ∈ routines isMessage rollback fields, ∀ t ∈ r.body.openings, t ∈ openingWords := by
  have hfields : ∀ {block : PlannedField → Block},
      (∀ f, ∀ t ∈ (block f).openings, t ∈ openingWords) →
        ∀ t ∈ (concat (fields.map block)).openings, t ∈ openingWords := by
    intro block h t ht
    rw [openings_concat, List.flatMap_map] at ht
    obtain ⟨f, -, ht⟩ := List.mem_flatMap.1 ht
    exact h f t ht
  simp only [routines, List.forall_mem_cons, List.not_mem_nil, false_implies, implies_true,
    and_true]
  refine ⟨?_, ?_, ?_, ?_⟩
  · simp only [lengthRoutine, openings_append, List.forall_mem_append]
    exact ⟨⟨by decide, hfields openings_lengthOf⟩, by decide⟩
  · simp only [deserializeRoutine, openings_append, List.forall_mem_append]
    exact ⟨hfields (openings_readOf rollback), by decide⟩
  · simp only [serializeRoutine, openings_append, List.forall_mem_append]
    refine ⟨?_, hfields openings_writeOf⟩
    cases isMessage <;> decide
  · exact hfields openings_disposeOf

/-- A line that begins like a statement does not begin with a tab. -/
theorem no_tab_of_opening_mem {opening text : String} (hmem : opening ∈ openingWords)
    (h : opening.toList <+: text.toList) : text.toList.head? ≠ some '\t' := by
  have hword : ∀ w ∈ openingWords, w.toList.head?.any (· ≠ '\t') = true := by decide
  obtain ⟨rest, hrest⟩ := h
  rw [← hrest, ← String.toList_ofList (l := rest), ← String.toList_append]
  exact no_tab_of_opening (hword opening hmem) _

/-- No line of a block begins with a tab, if its statements begin like those of the routines. -/
theorem Block.no_tab_of_mem_texts {b : Block} (h : ∀ t ∈ b.openings, t ∈ openingWords) :
    ∀ t ∈ b.texts, t.toList.head? ≠ some '\t' := by
  have hclose : "\x7d".toList.head? ≠ some '\t' := ordinary_closing.no_tab
  induction b with
  | done => exact nofun
  | step s rest ih =>
    rw [openings, List.forall_mem_cons] at h
    exact List.forall_mem_cons.2 ⟨no_tab_of_opening_mem h.1 s.opening_isPrefix, ih h.2⟩
  | «when» c body rest ihbody ihrest =>
    rw [openings, List.forall_mem_append] at h
    simp only [texts_when, List.forall_mem_cons, List.forall_mem_append]
    exact ⟨(ordinary_whenHead c).no_tab, ihbody h.1, hclose, ihrest h.2⟩
  | each n body rest ihbody ihrest =>
    rw [openings, List.forall_mem_append] at h
    simp only [texts_each, List.forall_mem_cons, List.forall_mem_append]
    exact ⟨(ordinary_loopHead n).no_tab, ihbody h.1, hclose, ihrest h.2⟩

/-! ### The text of the routines -/

/-- The texts that are made from a field have no braces and no line breaks. -/
theorem fieldTexts_isInline {f : PlannedField} (h : f.IsInline) :
    FieldTexts (AllChars IsInline) f where
  name := h.name
  count := by
    simp only [countName, allChars_append_iff]
    exact ⟨⟨allChars_isInline rfl, h.name⟩, allChars_isInline rfl⟩
  pointer n := by
    have hown : FieldType.ownChars.all (IsInline ·) = true := by decide +kernel
    obtain ⟨matching, hread⟩ := h.read
    rw [hread]
    exact FieldType.allChars_pointer matching
      (fun c hc => of_decide_eq_true (List.all_eq_true.1 hown c hc)) h.type n

/-- The signatures of the routines are short texts without braces. -/
theorem isInline_signature (isMessage rollback : Bool) (fields : List PlannedField) :
    ∀ r ∈ routines isMessage rollback fields, AllChars IsInline r.signature ∧
      r.signature.toList.head?.any (· ≠ '\t') = true := by
  simp only [routines, lengthRoutine, deserializeRoutine, serializeRoutine, disposeRoutine,
    List.forall_mem_cons, List.not_mem_nil, false_implies, implies_true, and_true]
  exact ⟨⟨allChars_isInline rfl, by decide⟩, ⟨allChars_isInline rfl, by decide⟩,
    ⟨allChars_isInline rfl, by decide +kernel⟩, ⟨allChars_isInline rfl, by decide⟩⟩

theorem oneLine_of_isInline {text : String} (h : AllChars IsInline text) : OneLine text :=
  fun hmem => (h _ hmem).2.2 rfl

section Routines

variable {fields : List PlannedField} (h : ∀ f ∈ fields, f.IsInline)

include h

theorem enclosed_routine (isMessage rollback : Bool) :
    ∀ r ∈ routines isMessage rollback fields, Enclosed memberDepth (r.lines memberDepth) := by
  have hwords : routineWords.all (·.toList.all (IsInline ·)) = true := by decide +kernel
  have hbody := allTexts_routines (fun w hw => allChars_isInline (List.all_eq_true.1 hwords w hw))
    (fun f hf => fieldTexts_isInline (h f hf)) isMessage rollback
  exact fun r hr => Routine.indented_lines (isInline_signature isMessage rollback fields r hr).1
    (hbody r hr) memberDepth

/-- All lines of the routines can be read back from their text. -/
theorem isLineText_routine (isMessage rollback : Bool) :
    ∀ r ∈ routines isMessage rollback fields, ∀ l ∈ r.lines memberDepth, IsLineText l.text := by
  intro r hr l hl
  obtain ⟨hsignature, htab⟩ := isInline_signature isMessage rollback fields r hr
  have hline := Block.oneLine_texts (allTexts_routines (by decide +kernel)
    (fun f hf => (fieldTexts_isInline (h f hf)).imp fun _ => oneLine_of_isInline)
    isMessage rollback r hr)
  have hstart := Block.no_tab_of_mem_texts (openings_routines isMessage rollback fields r hr)
  have hmem := List.mem_map_of_mem (f := Line.text) hl
  rw [Routine.map_text_lines, List.mem_cons, List.mem_append, List.mem_singleton] at hmem
  obtain heq | hmem | heq := hmem
  · rw [heq]
    exact ⟨oneLine_append_iff.2 ⟨oneLine_of_isInline hsignature, by decide⟩,
      no_tab_of_opening htab _⟩
  · exact ⟨hline _ hmem, hstart _ hmem⟩
  · rw [heq]
    exact ⟨by decide, ordinary_closing.no_tab⟩

end Routines

/-- **The indentation of the routines is their nesting.** Let no name and no type text of the fields
have a brace or a line break. Then in the text of the four routines each line begins with two tabs
and one more for each brace that the lines before it leave open, less one if it begins with a
closing brace. No brace is open where one of the four routines begins, or after the last one. -/
theorem indentation_eq_nesting (isMessage rollback : Bool) (fields : List PlannedField)
    (h : ∀ f ∈ fields, f.IsInline) :
    (∃ ls, textLines (renderLines (routineLines isMessage rollback fields)) = ls ++ [⟨0, ""⟩] ∧
      ∀ before l after, ls = before ++ l :: after →
        (l.depth : Int) = 2 + openBraces before - if l.closes then 1 else 0) ∧
      ∀ n, openBraces (textLines (renderLines
        (((routines isMessage rollback fields).take n).flatMap (Routine.lines memberDepth)))) =
          0 := by
  have hread : ∀ rs ⊆ routines isMessage rollback fields,
      textLines (renderLines (rs.flatMap (Routine.lines memberDepth))) =
        rs.flatMap (Routine.lines memberDepth) ++ [⟨0, ""⟩] := fun rs hrs =>
    textLines_renderLines (List.forall_mem_flatMap.2 fun r hr =>
      isLineText_routine h isMessage rollback r (hrs hr))
  have henclosed : ∀ rs ⊆ routines isMessage rollback fields,
      Enclosed memberDepth (rs.flatMap (Routine.lines memberDepth)) := fun rs hrs =>
    .flatMap fun r hr => enclosed_routine h isMessage rollback r (hrs hr)
  refine ⟨⟨_, hread _ (List.Subset.refl _), fun before l after hsplit => ?_⟩, fun n => ?_⟩
  · have hindented := (henclosed _ (List.Subset.refl _)).indented
    rw [hsplit] at hindented
    exact hindented.depth_eq
  · have hsub := List.take_subset n (routines isMessage rollback fields)
    rw [hread _ hsub, openBraces_append, (henclosed _ hsub).balanced]
    rfl

/-- Fields of all kinds, with an array of pointers, for which the routines are nested deepest. -/
def squadFields : List PlannedField :=
  [.make .token "crew" 0 "Sailor[]*", .make .token "rank" 1 "int[]", .make .token "ship" 2 "Ship**",
   .make .token "home" 3 "Port"]

/-- An item of an array of pointers is deleted where four braces of the routine are open. -/
theorem indentation_eq_nesting_squadFields :
    let l : Line := ⟨6, "delete this->crew[__i];"⟩
    (∀ f ∈ squadFields, f.IsInline) ∧ l ∈ routineLines true true squadFields ∧
      ∃ ls, textLines (renderLines (routineLines true true squadFields)) = ls ++ [⟨0, ""⟩] ∧
        ∀ before after, ls = before ++ l :: after → openBraces before = 4 := by
  intro l
  have hinline : ∀ f ∈ squadFields, f.IsInline := by
    simp only [squadFields, List.forall_mem_cons, List.not_mem_nil, false_implies, implies_true,
      and_true]
    exact ⟨⟨⟨.token, rfl⟩, allChars_isInline rfl, allChars_isInline rfl⟩,
      ⟨⟨.token, rfl⟩, allChars_isInline rfl, allChars_isInline rfl⟩,
      ⟨⟨.token, rfl⟩, allChars_isInline rfl, allChars_isInline rfl⟩,
      ⟨⟨.token, rfl⟩, allChars_isInline rfl, allChars_isInline rfl⟩⟩
  obtain ⟨⟨ls, hls, hdepth⟩, -⟩ := indentation_eq_nesting true true squadFields hinline
  refine ⟨hinline, by decide +kernel, ls, hls, fun before after hsplit => ?_⟩
  have hline : l.closes = false := by decide
  have hsix := hdepth before l after hsplit
  rw [hline] at hsix
  change (6 : Int) = 2 + openBraces before - 0 at hsix
  omega

end Header

end WireSchema
