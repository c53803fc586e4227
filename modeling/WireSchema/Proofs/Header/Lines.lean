import Mathlib.Data.List.Infix
import Mathlib.Tactic.Common
import WireSchema.Header.Routine

/-!
# The lines of emitted C++ blocks

Laws for reading emitted C++ back from its lines. The texts of the lines of a block do not depend
on the depth at which it is written, and blocks that follow one another are written one after
another. A line is read by what stands between a fixed opening and a fixed closing.

## Main definitions

* `Header.Block.texts`: the lines of a block without their depths.
* `Header.between?`: what stands between an opening and a closing.
* `Header.accessText`: the text of an access to a value behind pointers.

## Main results

* `Header.Block.map_text_lines`: the texts of the lines of a block at any depth.
* `Header.Block.lines_append`: the lines of blocks that follow one another.
* `Header.between?_eq_some_iff`: a text is read exactly if it was written.
* `Header.text_invoke`: the text of a call through pointers.
-/

namespace WireSchema.Header

/-! ### Blocks -/

namespace Block

/-- The texts of the lines of a block. -/
def texts : Block → List String
  | done => []
  | step s rest => s.text :: rest.texts
  | .when c body rest => whenHead c :: body.texts ++ "\x7d" :: rest.texts
  | each n body rest => loopHead n :: body.texts ++ "\x7d" :: rest.texts

theorem map_text_lines (b : Block) (depth : Nat) : (b.lines depth).map Line.text = b.texts := by
  induction b generalizing depth with
  | done => rfl
  | step s rest ih => simp only [lines, texts, List.map_cons, ih]
  | «when» c body rest ihbody ihrest =>
    simp only [lines, texts, List.map_cons, List.map_append, List.cons_append, ihbody, ihrest]
  | each n body rest ihbody ihrest =>
    simp only [lines, texts, List.map_cons, List.map_append, List.cons_append, ihbody, ihrest]

theorem lines_append (b b' : Block) (depth : Nat) :
    (b ++ b').lines depth = b.lines depth ++ b'.lines depth := by
  change (b.append b').lines depth = _
  induction b with
  | done => rfl
  | step s rest ih => simp only [append, lines, ih, List.cons_append]
  | «when» c body rest _ ih => simp only [append, lines, ih, List.cons_append, List.append_assoc]
  | each n body rest _ ih => simp only [append, lines, ih, List.cons_append, List.append_assoc]

@[simp]
theorem texts_done : texts done = [] := rfl

@[simp]
theorem texts_step (s : Simple) (rest : Block) : (step s rest).texts = s.text :: rest.texts := rfl

@[simp]
theorem texts_when (c : Expr) (body rest : Block) :
    (Block.when c body rest).texts = whenHead c :: (body.texts ++ "\x7d" :: rest.texts) := rfl

@[simp]
theorem texts_each (n : Expr) (body rest : Block) :
    (each n body rest).texts = loopHead n :: (body.texts ++ "\x7d" :: rest.texts) := rfl

@[simp]
theorem texts_append (b b' : Block) : (b ++ b').texts = b.texts ++ b'.texts := by
  change (b.append b').texts = _
  induction b with
  | done => rfl
  | step s rest ih => simp only [append, texts, ih, List.cons_append]
  | «when» c body rest _ ih => simp only [append, texts, ih, List.cons_append, List.append_assoc]
  | each n body rest _ ih => simp only [append, texts, ih, List.cons_append, List.append_assoc]

@[simp]
theorem texts_ofList (ss : List Simple) : (ofList ss).texts = ss.map Simple.text := by
  induction ss with
  | nil => rfl
  | cons s ss ih => simp only [ofList, texts, ih, List.map_cons]

@[simp]
theorem texts_concat (bs : List Block) : (concat bs).texts = bs.flatMap texts := by
  induction bs with
  | nil => rfl
  | cons b bs ih => rw [concat, texts_append, ih, List.flatMap_cons]

end Block

theorem Routine.map_text_lines (r : Routine) (depth : Nat) :
    (r.lines depth).map Line.text = (r.signature ++ " \x7b") :: (r.body.texts ++ ["\x7d"]) := by
  rw [Routine.lines, List.map_append, List.map_cons, Block.map_text_lines]
  rfl

/-! ### Reading lines -/

/-- What stands in a text between an opening and a closing, if it has both. -/
def between? (opening closing text : String) : Option String :=
  (opening.toList.isPrefixOf? text.toList).bind fun rest =>
    (closing.toList.isSuffixOf? rest).map String.ofList

/-- A text is read between an opening and a closing exactly if it was written there. -/
theorem between?_eq_some_iff {opening closing text inner : String} :
    between? opening closing text = some inner ↔ text = opening ++ inner ++ closing := by
  simp only [between?, Option.bind_eq_some_iff, Option.map_eq_some_iff,
    List.isPrefixOf?_eq_some_iff_append_eq, List.isSuffixOf?_eq_some_iff_append_eq]
  constructor
  · rintro ⟨rest, hrest, cs, hcs, rfl⟩
    apply String.toList_injective
    simp only [String.toList_append, String.toList_ofList, List.append_assoc, hcs, hrest]
  · rintro rfl
    refine ⟨(inner ++ closing).toList, ?_, inner.toList, ?_, String.ofList_toList⟩
    · simp only [String.toList_append, List.append_assoc]
    · rw [String.toList_append]

theorem between?_eq_none_of_opening {opening closing text : String}
    (h : ¬ opening.toList <+: text.toList) : between? opening closing text = none := by
  refine Option.eq_none_iff_forall_ne_some.2 fun inner hinner => h ?_
  rw [between?_eq_some_iff.1 hinner, String.toList_append, String.toList_append,
    List.append_assoc]
  exact List.prefix_append _ _

theorem between?_eq_none_of_closing {opening closing text : String}
    (h : ¬ closing.toList.reverse <+: text.toList.reverse) :
    between? opening closing text = none := by
  refine Option.eq_none_iff_forall_ne_some.2 fun inner hinner => h ?_
  rw [between?_eq_some_iff.1 hinner, String.toList_append, List.reverse_append]
  exact List.prefix_append _ _

/-! ### Calls through pointers -/

/-- The text before the name of a method that is called on what `place` reaches through `depth`
pointers: all pointers but the last are followed before the call. -/
def accessText (place : String) : (depth : Nat) → String
  | 0 => place ++ "."
  | 1 => place ++ "->"
  | n + 2 => "(" ++ FieldType.stars (n + 1) ++ place ++ ")->"

theorem text_through (e : Expr) (n : Nat) : (through e n).text = FieldType.stars n ++ e.text := by
  induction n with
  | zero => exact String.toList_injective (by simp [through, FieldType.stars])
  | succ n ih =>
    refine String.toList_injective ?_
    simp [through, Expr.text, ih, FieldType.stars, List.replicate_succ, FieldType.pointerMark]

/-- A call of a method behind pointers is written with the access to its value. -/
theorem text_invoke {e : Expr} (he : e.needsParens = false) (depth : Nat) (method : String)
    (args : List Expr) :
    (invoke e depth method args).text =
      accessText e.text depth ++ method ++ "(" ++ ", ".intercalate (argTexts args) ++ ")" := by
  match depth with
  | 0 => simp only [invoke, Expr.text, he, parenthesize, accessText, Bool.false_eq_true, if_false]
  | 1 =>
    simp only [invoke, through, Expr.text, he, parenthesize, accessText, Bool.false_eq_true,
      if_false]
  | n + 2 =>
    have hderef : (through e (n + 1)).needsParens = true := rfl
    have harrow : ")->" = ")" ++ "->" := by decide
    simp only [invoke, Expr.text, hderef, parenthesize, accessText, if_true, text_through, harrow,
      String.append_assoc]

end WireSchema.Header
