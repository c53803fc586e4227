import WireSchema.Proofs.Contract.Unambiguous
import WireSchema.Proofs.Header.Phrases

/-!
# The phrases of emitted C++ routines are unambiguous

What the routines of a class do with its fields can be told from their lines. The phrases for a
field differ in their first or second lines, whatever the name and the type of the field are. The
routine that disposes has no lines for some fields. All other phrases in it begin with the name of
their field, so that they can be told apart if no two fields have the same name.

## Main results

* `Header.unambiguous_phrasebook`: the phrases of a class are unambiguous.
* `Header.actions_eq_of_takes`: the routines of a class take no other actions than those that the
  kinds of its fields ask for.
-/

namespace WireSchema.Header

theorem line_ne {d : Nat} {text text' : String} (h : text.toList ≠ text'.toList) :
    (⟨d, text⟩ : Line) ≠ ⟨d, text'⟩ := fun heq => h (congrArg (·.text.toList) heq)

theorem releaseTexts_succ (place : String) (n : Nat) :
    releaseTexts place (n + 1) =
      ("delete " ++ (FieldType.stars n ++ place) ++ ";") :: releaseTexts place n := by
  rw [releaseTexts, List.range_succ, List.reverse_append, List.map_append]
  rfl

variable (d : Nat) (isMessage rollback : Bool)

section Apart

variable (f : PlannedField)

theorem pairwise_lengths :
    ((phrasebook d isMessage rollback).length.phrases f).Pairwise fun p p' => Apart p.1 p'.1 := by
  have hfixed : Apart (fixedLength d f) (dynamicLength d f) :=
    apart_of_getElem? 0 rfl rfl (line_ne (by simp))
  have hfixedItems : Apart (fixedLength d f) (itemsLength d f) :=
    apart_of_getElem? 0 rfl rfl (line_ne (by simp))
  have hdynamic : Apart (dynamicLength d f) (itemsLength d f) :=
    apart_of_getElem? 0 rfl rfl (line_ne (by simp))
  simp [phrasebook, hfixed, hfixedItems, hdynamic]

theorem pairwise_reads :
    ((phrasebook d isMessage rollback).read.phrases f).Pairwise fun p p' => Apart p.1 p'.1 := by
  have hscalarItems : Apart (scalarRead d rollback f) (itemsRead d rollback f) :=
    apart_of_getElem? 0 rfl rfl (line_ne (by simp))
  have hscalarNested : Apart (scalarRead d rollback f) (nestedRead d rollback f) :=
    apart_of_getElem? 0 rfl rfl (line_ne (by simp [place]))
  have hscalarPointer : Apart (scalarRead d rollback f) (pointerRead d rollback f) :=
    apart_of_getElem? 0 rfl rfl (line_ne (by simp))
  have hitemsNested : Apart (itemsRead d rollback f) (nestedRead d rollback f) :=
    apart_of_getElem? 0 rfl rfl (line_ne (by simp [place]))
  have hitemsPointer : Apart (itemsRead d rollback f) (pointerRead d rollback f) :=
    apart_of_getElem? 1 rfl rfl (line_ne (by simp [place]))
  have hnestedPointer : Apart (nestedRead d rollback f) (pointerRead d rollback f) :=
    apart_of_getElem? 0 rfl rfl (line_ne (by simp [place]))
  simp only [phrasebook]
  split_ifs <;> simp [*]

/-- A call on what a member reaches begins with the member or with a parenthesis. -/
theorem head?_accessText (depth : Nat) (text : String) :
    (accessText (place f) depth ++ text).toList.head? = some 't' ∨
      (accessText (place f) depth ++ text).toList.head? = some '(' := by
  match depth with
  | 0 => exact .inl (by simp [accessText, place])
  | 1 => exact .inl (by simp [accessText, place])
  | n + 2 => exact .inr (by simp [accessText])

theorem pairwise_writes :
    ((phrasebook d isMessage rollback).write.phrases f).Pairwise fun p p' => Apart p.1 p'.1 := by
  have hname : (place f).toList ≠ (countPlace f).toList := by
    intro heq
    have hlength := congrArg List.length heq
    simp [place, countPlace, countName] at hlength
  have hscalarItems : Apart (scalarWrite d f) (itemsWrite d f) :=
    apart_of_getElem? 0 rfl rfl (line_ne (by simpa using hname))
  have hwrite : ∀ text : String, ("serializer->write(" ++ text).toList ≠
      (accessText (place f) f.type.depth ++ "serialize(serializer, stream);").toList := by
    intro text heq
    have hhead := head?_accessText f f.type.depth "serialize(serializer, stream);"
    rw [← heq] at hhead
    simp at hhead
  have hscalarNested : Apart (scalarWrite d f) (nestedWrite d f.type.depth f) :=
    apart_of_getElem? 0 rfl rfl (line_ne (by rw [String.append_assoc]; exact hwrite _))
  have hitemsNested : Apart (itemsWrite d f) (nestedWrite d f.type.depth f) :=
    apart_of_getElem? 0 rfl rfl (line_ne (by rw [String.append_assoc]; exact hwrite _))
  simp [phrasebook, hscalarItems, hscalarNested, hitemsNested]

theorem pairwise_disposals :
    ((phrasebook d isMessage rollback).dispose.phrases f).Pairwise fun p p' =>
      Apart p.1 p'.1 ∨ p.1 = [] ∧ p'.1 ≠ [] := by
  have hscalars : Apart (scalarsRelease d f) (itemsRelease d f) :=
    apart_of_getElem? 1 rfl rfl (line_ne (by simp))
  have hne : scalarsRelease d f ≠ [] ∧ itemsRelease d f ≠ [] ∧ chainRelease d f ≠ [] := by
    simp [scalarsRelease, itemsRelease, chainRelease]
  simp only [phrasebook]
  split_ifs with hdepth
  · obtain ⟨n, hn⟩ := Nat.exists_eq_add_of_lt hdepth
    have hchain : (chainRelease d f)[1]? =
        some ⟨d + 2, "delete " ++ (FieldType.stars n ++ place f) ++ ";"⟩ := by
      rw [chainRelease, hn, Nat.zero_add, releaseTexts_succ]
      rfl
    have hscalarsChain : Apart (scalarsRelease d f) (chainRelease d f) :=
      apart_of_getElem? 1 rfl hchain (line_ne (by simp))
    have hitemsChain : Apart (itemsRelease d f) (chainRelease d f) :=
      apart_of_getElem? 1 rfl hchain (line_ne (by simp))
    simp [hscalars, hscalarsChain, hitemsChain, hne]
  · simp [hscalars, hne]

/-- What disposes of a member begins with its name. -/
theorem head?_of_mem_disposals {p : List Line × DisposeAction}
    (hp : p ∈ (phrasebook d isMessage rollback).dispose.phrases f) (hne : p.1 ≠ []) :
    p.1[0]? = some ⟨d + 1, "if (" ++ place f ++ " != 0) \x7b"⟩ := by
  simp only [phrasebook] at hp
  split_ifs at hp
  · simp only [List.cons_append, List.nil_append, List.mem_cons, List.not_mem_nil, or_false] at hp
    obtain rfl | rfl | rfl | rfl := hp
    · exact absurd rfl hne
    all_goals rfl
  · simp only [List.append_nil, List.mem_cons, List.not_mem_nil, or_false] at hp
    obtain rfl | rfl | rfl := hp
    · exact absurd rfl hne
    all_goals rfl

end Apart

/-- The phrases of the routines of a class are unambiguous, if its fields have different names. -/
theorem unambiguous_phrasebook {fields : List PlannedField} (h : (fields.map (·.name)).Nodup) :
    (phrasebook d isMessage rollback).Unambiguous fields where
  length := .of_ne_nil (fun f _ => by simp [phrasebook, fixedLength, dynamicLength, itemsLength])
    fun f _ => pairwise_lengths d isMessage rollback f
  read := .of_ne_nil
    (fun f _ => by
      simp only [phrasebook]
      split_ifs <;> simp [scalarRead, itemsRead, nestedRead, pointerRead])
    fun f _ => pairwise_reads d isMessage rollback f
  write := .of_ne_nil (fun f _ => by simp [phrasebook, scalarWrite, itemsWrite, nestedWrite])
    fun f _ => pairwise_writes d isMessage rollback f
  dispose := {
    own := fun f _ => pairwise_disposals d isMessage rollback f
    later := by
      refine (List.pairwise_map.1 h).imp fun hname _ p hp p' hp' hne hne' => ?_
      refine apart_of_getElem? 0 (head?_of_mem_disposals d isMessage rollback _ hp hne)
        (head?_of_mem_disposals d isMessage rollback _ hp' hne') (line_ne fun heq => hname ?_)
      exact String.toList_injective (by simpa [place] using heq) }

/-- The routines of a class take no other actions than those that the kinds of its fields ask
for. -/
theorem actions_eq_of_takes {fields : List PlannedField} (h : (fields.map (·.name)).Nodup)
    {actions : List FieldActions}
    (htakes : (phrasebook d isMessage rollback).Takes fields
      (routineBodies d isMessage rollback fields) actions) :
    actions = fields.map PlannedField.actions :=
  htakes.actions_unique (unambiguous_phrasebook d isMessage rollback h)
    (takes_routineBodies d isMessage rollback fields)

end WireSchema.Header
