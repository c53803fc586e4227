import WireSchema.Proofs.Header.TextLines
import WireSchema.Proofs.Holes

/-!
# Rollback in emitted C++ headers

With rollback a failed read disposes of the fields read so far before it ends the routine. This adds
one line in front of each failed end of the routine that reads, at the same depth, and changes
nothing else in a header.

## Main definitions

* `Header.DisposesAtExits`: lines with a disposal in front of each failed end, and the lines without
  the disposals.
* `Header.insertDisposals`: the lines with the disposals.
* `Header.Block.RollsBack`: a block with rollback and the block without it.

## Main results

* `Header.disposesAtExits_insertDisposals`: what the insertion of disposals means.
* `Header.rollsBack_readOf`: the read of a field with rollback.
* `Header.disposesAtExits_deserialize`: the text of the routine that reads, with rollback.
* `Header.hasHoles_lines`: the rest of a header does not depend on rollback.
-/

namespace WireSchema.Header

open Block Text

/-! ### Inserted lines -/

/-- The line of a failed end. -/
def exitText : String := "return false;"

/-- The line that disposes of the fields read so far. -/
def disposalText : String := "this->dispose();"

/-- Every failed end comes directly after a disposal at its depth, every disposal directly before a
failed end at its depth, and without the disposals the lines are `off`. -/
structure DisposesAtExits (on off : List Line) : Prop where
  filter_eq : on.filter (·.text ≠ disposalText) = off
  exit_preceded : ∀ before depth after, on = before ++ ⟨depth, exitText⟩ :: after →
    ∃ start, before = start ++ [⟨depth, disposalText⟩]
  disposal_followed : ∀ before depth after, on = before ++ ⟨depth, disposalText⟩ :: after →
    ∃ rest, after = ⟨depth, exitText⟩ :: rest

/-- The lines with a disposal before each failed end. -/
def insertDisposals (ls : List Line) : List Line :=
  ls.flatMap fun l => if l.text = exitText then [⟨l.depth, disposalText⟩, l] else [l]

theorem insertDisposals_append (ls ls' : List Line) :
    insertDisposals (ls ++ ls') = insertDisposals ls ++ insertDisposals ls' :=
  List.flatMap_append

theorem insertDisposals_cons_of_ne {l : Line} (h : l.text ≠ exitText) (ls : List Line) :
    insertDisposals (l :: ls) = l :: insertDisposals ls := by
  rw [insertDisposals, List.flatMap_cons, if_neg h]
  rfl

theorem insertDisposals_cons_of_eq {l : Line} (h : l.text = exitText) (ls : List Line) :
    insertDisposals (l :: ls) = ⟨l.depth, disposalText⟩ :: l :: insertDisposals ls := by
  rw [insertDisposals, List.flatMap_cons, if_pos h]
  rfl

theorem mem_insertDisposals {ls : List Line} {l : Line} (h : l ∈ insertDisposals ls) :
    l ∈ ls ∨ l.text = disposalText := by
  obtain ⟨l', hl', h⟩ := List.mem_flatMap.1 h
  split_ifs at h
  · obtain rfl | rfl : l = ⟨l'.depth, disposalText⟩ ∨ l = l' := by simpa using h
    · exact .inr rfl
    · exact .inl hl'
  · exact .inl (List.mem_singleton.1 h ▸ hl')

theorem exitText_ne_disposalText : exitText ≠ disposalText := by decide

theorem filter_insertDisposals {ls : List Line} (h : ∀ l ∈ ls, l.text ≠ disposalText) :
    (insertDisposals ls).filter (·.text ≠ disposalText) = ls := by
  induction ls with
  | nil => rfl
  | cons l ls ih =>
    rw [List.forall_mem_cons] at h
    by_cases hexit : l.text = exitText
    · rw [insertDisposals_cons_of_eq hexit, List.filter_cons_of_neg (by simp),
        List.filter_cons_of_pos (by simpa using h.1), ih h.2]
    · rw [insertDisposals_cons_of_ne hexit, List.filter_cons_of_pos (by simpa using h.1), ih h.2]

theorem exit_preceded_insertDisposals {ls before after : List Line} {depth : Nat}
    (h : insertDisposals ls = before ++ ⟨depth, exitText⟩ :: after) :
    ∃ start, before = start ++ [⟨depth, disposalText⟩] := by
  induction ls generalizing before with
  | nil => simp [insertDisposals] at h
  | cons l ls ih =>
    by_cases hexit : l.text = exitText
    · rw [insertDisposals_cons_of_eq hexit] at h
      obtain ⟨-, hend⟩ | ⟨before, rfl, hrest⟩ := List.cons_eq_append_iff.1 h
      · exact absurd (congrArg Line.text (List.cons.inj hend).1) exitText_ne_disposalText
      obtain ⟨rfl, hend⟩ | ⟨before, rfl, hrest'⟩ := List.cons_eq_append_iff.1 hrest
      · exact ⟨[], by rw [← (List.cons.inj hend).1, List.nil_append]⟩
      · obtain ⟨start, rfl⟩ := ih hrest'
        exact ⟨⟨l.depth, disposalText⟩ :: l :: start, rfl⟩
    · rw [insertDisposals_cons_of_ne hexit] at h
      obtain ⟨-, hend⟩ | ⟨before, rfl, hrest⟩ := List.cons_eq_append_iff.1 h
      · exact absurd (congrArg Line.text (List.cons.inj hend).1).symm hexit
      · obtain ⟨start, rfl⟩ := ih hrest
        exact ⟨l :: start, rfl⟩

theorem disposal_followed_insertDisposals {ls before after : List Line} {depth : Nat}
    (hls : ∀ l ∈ ls, l.text ≠ disposalText)
    (h : insertDisposals ls = before ++ ⟨depth, disposalText⟩ :: after) :
    ∃ rest, after = ⟨depth, exitText⟩ :: rest := by
  induction ls generalizing before with
  | nil => simp [insertDisposals] at h
  | cons l ls ih =>
    rw [List.forall_mem_cons] at hls
    by_cases hexit : l.text = exitText
    · rw [insertDisposals_cons_of_eq hexit] at h
      obtain ⟨-, h⟩ | ⟨before, -, h⟩ := List.cons_eq_append_iff.1 h
      · obtain ⟨hdepth, rfl⟩ := List.cons.inj h
        obtain rfl : depth = l.depth := congrArg Line.depth hdepth
        exact ⟨insertDisposals ls, by rw [← hexit]⟩
      obtain ⟨-, h⟩ | ⟨before, -, h⟩ := List.cons_eq_append_iff.1 h
      · exact absurd (congrArg Line.text (List.cons.inj h).1).symm hls.1
      · exact ih hls.2 h
    · rw [insertDisposals_cons_of_ne hexit] at h
      obtain ⟨-, h⟩ | ⟨before, -, h⟩ := List.cons_eq_append_iff.1 h
      · exact absurd (congrArg Line.text (List.cons.inj h).1).symm hls.1
      · exact ih hls.2 h

/-- Disposals that are inserted into lines without any stand directly before the failed ends. -/
theorem disposesAtExits_insertDisposals {ls : List Line} (h : ∀ l ∈ ls, l.text ≠ disposalText) :
    DisposesAtExits (insertDisposals ls) ls where
  filter_eq := filter_insertDisposals h
  exit_preceded _ _ _ := exit_preceded_insertDisposals
  disposal_followed _ _ _ := disposal_followed_insertDisposals h

/-! ### Texts of other lines -/

/-- A line that is neither a failed end nor a disposal and does not begin with a tab. -/
structure Ordinary (text : String) : Prop where
  ne_exit : text ≠ exitText
  ne_disposal : text ≠ disposalText
  no_tab : text.toList.head? ≠ some '\t'

theorem ne_of_opening {opening rest text : String} (h : ¬ opening.toList <+: text.toList) :
    opening ++ rest ≠ text := by
  rintro rfl
  refine h ?_
  rw [String.toList_append]
  exact List.prefix_append _ _

theorem no_tab_of_opening {opening : String} (h : opening.toList.head?.any (· ≠ '\t') = true)
    (rest : String) : (opening ++ rest).toList.head? ≠ some '\t' := by
  rw [String.toList_append]
  cases hcs : opening.toList with
  | nil => simp [hcs] at h
  | cons c cs => simpa [hcs] using h

theorem ordinary_whenHead (c : Expr) : Ordinary (whenHead c) := by
  have heq : whenHead c = "if (" ++ (c.text ++ ") \x7b") := String.append_assoc
  rw [heq]
  exact ⟨ne_of_opening (by decide), ne_of_opening (by decide), no_tab_of_opening (by decide) _⟩

theorem ordinary_loopHead (n : Expr) : Ordinary (loopHead n) := by
  have heq : loopHead n = "for (unsigned char __i = 0; __i < " ++ (n.text ++ "; __i++) \x7b") :=
    String.append_assoc
  rw [heq]
  exact ⟨ne_of_opening (by decide +kernel), ne_of_opening (by decide +kernel),
    no_tab_of_opening (by decide +kernel) _⟩

theorem ordinary_closing : Ordinary "\x7d" := by
  constructor <;> decide

/-- An assignment to a member has a blank in it, which a disposal has not. -/
theorem ordinary_assign {e value : Expr} {rest : String} (h : e.text = "this->" ++ rest) :
    Ordinary (Simple.assign e value).text := by
  have heq : (Simple.assign e value).text = "this->" ++ (rest ++ " = " ++ value.text ++ ";") := by
    simp only [Simple.text, h, String.append_assoc]
  have hblank : ' ' ∈ (Simple.assign e value).text.toList := by simp [Simple.text]
  refine ⟨?_, fun hdisposal => ?_, ?_⟩
  · rw [heq]
    exact ne_of_opening (by decide)
  · rw [hdisposal] at hblank
    exact absurd hblank (by decide)
  · rw [heq]
    exact no_tab_of_opening (by decide) _

/-! ### Blocks -/

namespace Block

/-- `on` is `off` with a disposal before each failed end. All other lines of `off` are ordinary. -/
structure RollsBack (on off : Block) : Prop where
  lines_eq : ∀ depth, on.lines depth = insertDisposals (off.lines depth)
  ordinary : ∀ t ∈ off.texts, t ≠ exitText → Ordinary t

namespace RollsBack

variable {on on' off off' body body' : Block}

theorem done : RollsBack .done .done := ⟨fun _ => rfl, nofun⟩

/-- An ordinary statement stays as it is. -/
theorem step {s : Simple} (hs : Ordinary s.text) (h : RollsBack on off) :
    RollsBack (.step s on) (.step s off) where
  lines_eq depth := by
    rw [lines, lines, h.lines_eq, insertDisposals_cons_of_ne hs.ne_exit]
  ordinary := List.forall_mem_cons.2 ⟨fun _ => hs, h.ordinary⟩

theorem append (h : RollsBack on off) (h' : RollsBack on' off') :
    RollsBack (on ++ on') (off ++ off') where
  lines_eq depth := by
    rw [lines_append, lines_append, insertDisposals_append, h.lines_eq, h'.lines_eq]
  ordinary := by
    rw [texts_append, List.forall_mem_append]
    exact ⟨h.ordinary, h'.ordinary⟩

theorem concat {α : Type} {block block' : α → Block} (h : ∀ a, RollsBack (block a) (block' a))
    (l : List α) : RollsBack (.concat (l.map block)) (.concat (l.map block')) := by
  induction l with
  | nil => exact done
  | cons a l ih => exact (h a).append ih

/-- Statements between the first and the last line of a compound statement. -/
theorem insertDisposals_enclosed {head : String} (hhead : Ordinary head) (depth : Nat)
    (h : RollsBack body body') (hrest : RollsBack on off) :
    ⟨depth, head⟩ :: body.lines (depth + 1) ++ ⟨depth, "\x7d"⟩ :: on.lines depth =
      insertDisposals
        (⟨depth, head⟩ :: body'.lines (depth + 1) ++ ⟨depth, "\x7d"⟩ :: off.lines depth) := by
  have hclose : (Line.mk depth "\x7d").text ≠ exitText := ordinary_closing.ne_exit
  rw [List.cons_append, List.cons_append, insertDisposals_cons_of_ne hhead.ne_exit,
    insertDisposals_append, insertDisposals_cons_of_ne hclose, h.lines_eq, hrest.lines_eq]

theorem ordinary_enclosed {head : String} (hhead : Ordinary head) (h : RollsBack body body')
    (hrest : RollsBack on off) :
    ∀ t ∈ head :: (body'.texts ++ "\x7d" :: off.texts), t ≠ exitText → Ordinary t := by
  simp only [List.forall_mem_cons, List.forall_mem_append]
  exact ⟨fun _ => hhead, h.ordinary, fun _ => ordinary_closing, hrest.ordinary⟩

theorem «when» (c : Expr) (h : RollsBack body body') (hrest : RollsBack on off) :
    RollsBack (.when c body on) (.when c body' off) where
  lines_eq depth := insertDisposals_enclosed (ordinary_whenHead c) depth h hrest
  ordinary := ordinary_enclosed (ordinary_whenHead c) h hrest

theorem each (n : Expr) (h : RollsBack body body') (hrest : RollsBack on off) :
    RollsBack (.each n body on) (.each n body' off) where
  lines_eq depth := insertDisposals_enclosed (ordinary_loopHead n) depth h hrest
  ordinary := ordinary_enclosed (ordinary_loopHead n) h hrest

end RollsBack

end Block

/-! ### The routine that reads -/

theorem rollsBack_failure : RollsBack (failure true) (failure false) where
  lines_eq _ := rfl
  ordinary := List.forall_mem_cons.2 ⟨fun h => absurd rfl h, nofun⟩

theorem rollsBack_orFail (read : Expr) : RollsBack (orFail true read) (orFail false read) :=
  rollsBack_failure.when _ .done

theorem rollsBack_allocateAt {e : Expr} {rest : String} (h : e.text = "this->" ++ rest)
    (t : FieldType) : RollsBack (allocateAt e t) (allocateAt e t) :=
  .when _ (.step (ordinary_assign h) .done) .done

theorem rollsBack_readCount (f : PlannedField) :
    RollsBack (readCount true f) (readCount false f) := by
  have hdeclare : Ordinary (Simple.declare "unsigned char" "__len" zero).text := by
    constructor <;> decide +kernel
  have htarget : (target f).text = "this->" ++ f.name := rfl
  have hcount : (countOf f).text = "this->" ++ countName f.name := rfl
  refine .when _ (.append (.append (.step hdeclare .done) (rollsBack_orFail _)) ?_) .done
  exact .step (ordinary_assign htarget) (.step (ordinary_assign hcount) .done)

theorem rollsBack_readItem (f : PlannedField) :
    RollsBack (readItem true f) (readItem false f) := by
  have hitem : (itemOf f).text = "this->" ++ (f.name ++ "[__i]") := String.append_assoc
  refine RollsBack.append ?_ (rollsBack_orFail _)
  split_ifs
  · exact rollsBack_allocateAt hitem f.type
  · exact .done

/-- The read of a field with rollback. -/
theorem rollsBack_readOf (f : PlannedField) : RollsBack (readOf true f) (readOf false f) := by
  cases hkind : f.kind with
  | builtin =>
    simp only [readOf, hkind]
    exact .when _ rollsBack_failure .done
  | array =>
    simp only [readOf, hkind]
    exact (rollsBack_readCount f).append (.each _ (rollsBack_readItem f) .done)
  | pointer =>
    simp only [readOf, hkind]
    exact (rollsBack_allocateAt rfl f.type).append (rollsBack_orFail _)
  | nested =>
    simp only [readOf, hkind]
    exact rollsBack_orFail _

theorem rollsBack_deserialize (fields : List PlannedField) :
    RollsBack (deserializeRoutine true fields).body (deserializeRoutine false fields).body := by
  have hend : Ordinary (Simple.give (.name "true")).text := by
    constructor <;> decide
  exact (RollsBack.concat rollsBack_readOf fields).append (.step hend .done)

/-- The first line of the routine that reads. -/
def deserializeHead : String := "bool deserialize(Serializer *serializer) \x7b"

theorem ordinary_deserializeHead : Ordinary deserializeHead := by
  constructor <;> decide +kernel

/-- The routine with rollback is the routine without it, with a disposal before each failed end. -/
theorem lines_deserialize (fields : List PlannedField) (depth : Nat) :
    (deserializeRoutine true fields).lines depth =
      insertDisposals ((deserializeRoutine false fields).lines depth) :=
  RollsBack.insertDisposals_enclosed ordinary_deserializeHead depth (rollsBack_deserialize fields)
    .done

/-- All lines of the routine without rollback can be read back, and none is a disposal. -/
theorem isLineText_deserialize {fields : List PlannedField} (h : ∀ f ∈ fields, f.OneLine)
    (depth : Nat) :
    ∀ l ∈ (deserializeRoutine false fields).lines depth,
      IsLineText l.text ∧ l.text ≠ disposalText := by
  have hwords : ∀ w ∈ routineWords, OneLine w := by decide +kernel
  have hhead : OneLine deserializeHead := by decide +kernel
  have hbody := Block.oneLine_texts (allTexts_routines hwords (fun f hf => (h f hf).fieldTexts)
    false false (deserializeRoutine false fields) (by simp [routines]))
  have hordinary : ∀ {t}, Ordinary t → OneLine t → IsLineText t ∧ t ≠ disposalText :=
    fun ht hline => ⟨⟨hline, ht.no_tab⟩, ht.ne_disposal⟩
  have hexit : IsLineText exitText ∧ exitText ≠ disposalText :=
    ⟨⟨by decide, by decide⟩, exitText_ne_disposalText⟩
  intro l hl
  have hmem := List.mem_map_of_mem (f := Line.text) hl
  rw [Routine.map_text_lines, List.mem_cons, List.mem_append, List.mem_singleton] at hmem
  obtain heq | hmem | heq := hmem
  · rw [heq]
    exact hordinary ordinary_deserializeHead hhead
  · by_cases heq : l.text = exitText
    · rw [heq]
      exact hexit
    · exact hordinary ((rollsBack_deserialize fields).ordinary _ hmem heq) (hbody _ hmem)
  · rw [heq]
    exact hordinary ordinary_closing (by decide)

/-- The text of the routine that reads, with and without rollback. -/
theorem disposesAtExits_deserialize {fields : List PlannedField} (h : ∀ f ∈ fields, f.OneLine)
    (depth : Nat) :
    DisposesAtExits (textLines (renderLines ((deserializeRoutine true fields).lines depth)))
      (textLines (renderLines ((deserializeRoutine false fields).lines depth))) := by
  have hoff := isLineText_deserialize h depth
  have hon : ∀ l ∈ insertDisposals ((deserializeRoutine false fields).lines depth),
      IsLineText l.text := by
    intro l hl
    obtain hmem | heq := mem_insertDisposals hl
    · exact (hoff l hmem).1
    · rw [heq]
      exact ⟨by decide, by decide⟩
  have hempty : insertDisposals [⟨0, ""⟩] = [⟨0, ""⟩] := by decide
  rw [lines_deserialize, textLines_renderLines hon, textLines_renderLines fun l hl => (hoff l hl).1,
    ← hempty, ← insertDisposals_append, hempty]
  refine disposesAtExits_insertDisposals fun l hl => ?_
  obtain hmem | hmem := List.mem_append.1 hl
  · exact (hoff l hmem).2
  · rw [List.mem_singleton.1 hmem]
    decide

/-! ### The rest of a header -/

/-- The lines of the routine that reads the fields of a class. -/
def readLines (rollback : Bool) (fields : List PlannedField) : List Line :=
  (deserializeRoutine rollback fields).lines memberDepth

theorem hasHoles_routineLines (isMessage : Bool) (fields : List PlannedField) :
    HasHoles readLines [fields] fun rollback => routineLines isMessage rollback fields := by
  have heq : ∀ rollback, routineLines isMessage rollback fields =
      (lengthRoutine fields).lines memberDepth ++ readLines rollback fields ++
        ((serializeRoutine isMessage fields).lines memberDepth ++
          (disposeRoutine fields).lines memberDepth) := by
    intro rollback
    simp [routineLines, routines, readLines]
  simp only [heq]
  exact (HasHoles.single fields).enclosed _ _

theorem hasHoles_objectLines (o : PlannedObject) :
    HasHoles readLines [o.fields] fun rollback => objectLines rollback o :=
  (hasHoles_routineLines false o.fields).enclosed _ _

theorem hasHoles_messageLines (m : PlannedMessage) :
    HasHoles readLines [m.fields] fun rollback => messageLines rollback m := by
  have hclass : HasHoles readLines [m.fields] fun rollback => messageClass rollback m :=
    (hasHoles_routineLines true m.fields).enclosed _ _
  exact (hclass.enclosed _ _).append (.fixed _)

/-- A header is fixed but for the routines that read, one for each object and each message. -/
theorem hasHoles_lines (s : HeaderSettings) (p : Plan) :
    HasHoles readLines (p.objects.map (·.fields) ++ p.messages.map (·.fields))
      fun rollback => lines s rollback p := by
  have hobjects := HasHoles.flatMap hasHoles_objectLines p.objects
  have hmessages := HasHoles.flatMap hasHoles_messageLines p.messages
  have hlines : HasHoles readLines
      ([] ++ p.objects.map (·.fields) ++ p.messages.map (·.fields) ++ [] ++ [])
      fun rollback => lines s rollback p :=
    ((((HasHoles.fixed _).append hobjects).append hmessages).append (.fixed _)).append (.fixed _)
  rwa [List.nil_append, List.append_nil, List.append_nil] at hlines

end WireSchema.Header
