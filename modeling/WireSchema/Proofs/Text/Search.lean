import Mathlib.Data.List.Infix
import Mathlib.Data.List.TakeWhile
import Mathlib.Tactic.Common
import WireSchema.Text.Search

/-!
# Cutting texts at first occurrences

A pattern occurs in a text exactly if it is an infix of it, and removing its first occurrence
removes no other character. A text in brackets is cut at the brackets that it was put into, as long
as what stands before and between them holds no bracket of its own.

## Main results

* `contains_eq_true_iff`: a pattern occurs where it is an infix.
* `filter_eraseFirst`: the characters that stay when an occurrence is removed.
* `cutFirst_append`: a pattern is cut out where its first character occurs first.
* `eraseFirst_append_of_notMem`: a pattern is removed behind a text without its first character.
* `eraseFirst_append_of_contains`: a pattern is removed where it occurs first in a longer text.
* `cutBracketed_append`: a text is cut at the brackets that it was put into.
* `cutBracketed_filter`: the cut does not depend on characters other than the brackets.
-/

namespace WireSchema.Text

/-! ### Occurrences -/

theorem eq_append_of_cutFirst {pat cs before after : List Char}
    (h : cutFirst pat cs = some (before, after)) : cs = before ++ pat ++ after := by
  induction cs generalizing before with
  | nil =>
    by_cases hpat : pat.isEmpty
    · obtain rfl : pat = [] := List.isEmpty_iff.1 hpat
      obtain ⟨rfl, rfl⟩ : [] = before ∧ [] = after := by simpa [cutFirst] using h
      rfl
    · simp [cutFirst, hpat] at h
  | cons c cs ih =>
    rw [cutFirst] at h
    split_ifs at h with hhere
    · obtain ⟨rest, hrest⟩ := List.isPrefixOf_iff_prefix.1 hhere
      obtain ⟨rfl, rfl⟩ : [] = before ∧ (c :: cs).drop pat.length = after := by simpa using h
      rw [← hrest, List.drop_left, List.nil_append]
    · obtain ⟨⟨before', after'⟩, hcut, hpair⟩ := Option.map_eq_some_iff.1 h
      obtain ⟨rfl, rfl⟩ : c :: before' = before ∧ after' = after := by simpa using hpair
      rw [ih hcut, List.cons_append, List.cons_append]

/-- A pattern occurs in a text exactly if it is an infix of it. -/
theorem contains_eq_true_iff {pat cs : List Char} : contains pat cs = true ↔ pat <:+: cs := by
  constructor
  · intro h
    obtain ⟨⟨before, after⟩, hcut⟩ := Option.isSome_iff_exists.1 h
    exact ⟨before, after, (eq_append_of_cutFirst hcut).symm⟩
  · intro h
    induction cs with
    | nil =>
      obtain rfl := List.eq_nil_of_infix_nil h
      rfl
    | cons c cs ih =>
      rw [contains, cutFirst]
      split_ifs with hhere
      · rfl
      · rw [Option.isSome_map]
        refine ih ((List.infix_cons_iff.1 h).resolve_left fun hprefix => ?_)
        exact hhere (List.isPrefixOf_iff_prefix.2 hprefix)

/-- What occurs in a part of a text occurs in the text. -/
theorem contains_of_infix {pat cs cs' : List Char} (h : contains pat cs = true)
    (hpart : cs <:+: cs') : contains pat cs' = true :=
  contains_eq_true_iff.2 ((contains_eq_true_iff.1 h).trans hpart)

theorem contains_eq_false_of_notMem {pat cs : List Char} {c : Char} (hpat : c ∈ pat)
    (hcs : c ∉ cs) : contains pat cs = false :=
  Bool.eq_false_iff.2 fun h => hcs ((contains_eq_true_iff.1 h).subset hpat)

/-- What has no character in common with the end of a text occurs before that end. -/
theorem infix_of_infix_append {pat cs rest : List Char} (hpat : pat ≠ [])
    (hrest : ∀ c ∈ pat, c ∉ rest) (h : pat <:+: cs ++ rest) : pat <:+: cs := by
  obtain h | h | ⟨left, right, rfl, hleft, hright⟩ := List.infix_append_iff.1 h
  · exact h
  · obtain ⟨c, hc⟩ := List.exists_mem_of_ne_nil pat hpat
    exact absurd (h.subset hc) (hrest c hc)
  · have hnil : right = [] := List.eq_nil_iff_forall_not_mem.2 fun c hc =>
      hrest c (List.mem_append_right _ hc) (hright.subset hc)
    rw [hnil, List.append_nil]
    exact hleft.isInfix

/-! ### Removal -/

theorem eraseFirst_of_not_contains {pat cs : List Char} (h : contains pat cs = false) :
    eraseFirst pat cs = cs := by
  have hcut : cutFirst pat cs = none := by simpa [contains] using h
  rw [eraseFirst, hcut]

theorem eraseFirst_eq_or (pat cs : List Char) :
    eraseFirst pat cs = cs ∨
      ∃ before after, cs = before ++ pat ++ after ∧ eraseFirst pat cs = before ++ after := by
  unfold eraseFirst
  cases h : cutFirst pat cs with
  | none => exact .inl rfl
  | some cut => exact .inr ⟨cut.1, cut.2, eq_append_of_cutFirst h, rfl⟩

/-- The characters of a kind that does not occur in a pattern stay when the pattern is removed. -/
theorem filter_eraseFirst {keep : Char → Bool} {pat : List Char}
    (h : ∀ c ∈ pat, keep c = false) (cs : List Char) :
    (eraseFirst pat cs).filter keep = cs.filter keep := by
  have hpat : pat.filter keep = [] := List.filter_eq_nil_iff.2 fun c hc => by simp [h c hc]
  obtain heq | ⟨before, after, rfl, heq⟩ := eraseFirst_eq_or pat cs
  · rw [heq]
  · rw [heq, List.filter_append, List.filter_append, List.filter_append, hpat, List.append_nil]

theorem count_eraseFirst {pat : List Char} {c : Char} (h : c ∉ pat) (cs : List Char) :
    (eraseFirst pat cs).count c = cs.count c := by
  have hkeep : ∀ d ∈ pat, (d == c) = false := fun d hd => by
    simpa using fun hdc : d = c => h (hdc ▸ hd)
  rw [List.count_eq_length_filter, List.count_eq_length_filter, filter_eraseFirst hkeep]

/-- A pattern is cut out of a text where its first character occurs first. -/
theorem cutFirst_append {c : Char} {before : List Char} (h : c ∉ before) (pat after : List Char) :
    cutFirst (c :: pat) (before ++ (c :: pat) ++ after) = some (before, after) := by
  induction before with
  | nil =>
    have hhere : (c :: pat).isPrefixOf (c :: pat ++ after) = true :=
      List.isPrefixOf_iff_prefix.2 (List.prefix_append _ _)
    rw [List.nil_append, List.cons_append, cutFirst, ← List.cons_append, if_pos hhere,
      List.drop_left]
  | cons d before ih =>
    obtain ⟨hd, hbefore⟩ : c ≠ d ∧ c ∉ before := by simpa using h
    have hhere : (c :: pat).isPrefixOf (d :: (before ++ (c :: pat) ++ after)) = false := by
      rw [List.isPrefixOf, beq_eq_false_iff_ne.2 hd, Bool.false_and]
    rw [List.cons_append, List.cons_append, cutFirst, hhere, ih hbefore]
    rfl

/-- The first occurrence in a text is the first one in every longer text. -/
theorem cutFirst_append_of_some {pat cs before after : List Char} (hpat : pat ≠ [])
    (h : cutFirst pat cs = some (before, after)) (rest : List Char) :
    cutFirst pat (cs ++ rest) = some (before, after ++ rest) := by
  induction cs generalizing before with
  | nil => simp [cutFirst, hpat] at h
  | cons c cs ih =>
    rw [cutFirst] at h
    rw [List.cons_append, cutFirst]
    split_ifs at h with hhere
    · obtain ⟨rfl, rfl⟩ : [] = before ∧ (c :: cs).drop pat.length = after := by simpa using h
      have hpre := List.isPrefixOf_iff_prefix.1 hhere
      have hlonger : pat.isPrefixOf (c :: (cs ++ rest)) = true :=
        List.isPrefixOf_iff_prefix.2 (hpre.trans (List.prefix_append (c :: cs) rest))
      rw [if_pos hlonger, ← List.cons_append, List.drop_append_of_le_length hpre.length_le]
    · obtain ⟨⟨before', after'⟩, hcut, hpair⟩ := Option.map_eq_some_iff.1 h
      obtain ⟨rfl, rfl⟩ : c :: before' = before ∧ after' = after := by simpa using hpair
      have hlength : pat.length ≤ (c :: cs).length := by
        rw [eq_append_of_cutFirst hcut]
        simp only [List.length_cons, List.length_append]
        omega
      have hlonger : ¬ pat.isPrefixOf (c :: (cs ++ rest)) = true := fun hpre =>
        hhere (List.isPrefixOf_iff_prefix.2 (List.prefix_of_prefix_length_le
          (List.isPrefixOf_iff_prefix.1 hpre) (List.prefix_append (c :: cs) rest) hlength))
      rw [if_neg hlonger, ih hcut]
      rfl

/-- A pattern is removed behind a text that does not hold its first character. -/
theorem eraseFirst_append_of_notMem {c : Char} {cs : List Char} (h : c ∉ cs)
    (pat rest : List Char) :
    eraseFirst (c :: pat) (cs ++ rest) = cs ++ eraseFirst (c :: pat) rest := by
  induction cs with
  | nil => rfl
  | cons d cs ih =>
    obtain ⟨hd, hcs⟩ : c ≠ d ∧ c ∉ cs := by simpa using h
    have hhere : (c :: pat).isPrefixOf (d :: (cs ++ rest)) = false := by
      rw [List.isPrefixOf, beq_eq_false_iff_ne.2 hd, Bool.false_and]
    have hstep : eraseFirst (c :: pat) (d :: (cs ++ rest)) =
        d :: eraseFirst (c :: pat) (cs ++ rest) := by
      rw [eraseFirst, eraseFirst, cutFirst, hhere]
      cases cutFirst (c :: pat) (cs ++ rest) <;> rfl
    rw [List.cons_append, hstep, ih hcs, List.cons_append]

/-- What occurs in a text is removed from it within every longer text. -/
theorem eraseFirst_append_of_contains {pat cs : List Char} (hpat : pat ≠ [])
    (h : contains pat cs = true) (rest : List Char) :
    eraseFirst pat (cs ++ rest) = eraseFirst pat cs ++ rest := by
  obtain ⟨⟨before, after⟩, hcut⟩ := Option.isSome_iff_exists.1 h
  rw [eraseFirst, eraseFirst, cutFirst_append_of_some hpat hcut, hcut, List.append_assoc]

/-! ### Brackets -/

section Bracketed

variable {opener closer : Char} {before inner : List Char}

theorem takeWhile_ne_append {c : Char} {cs : List Char} (h : c ∉ cs) (rest : List Char) :
    (cs ++ c :: rest).takeWhile (· != c) = cs := by
  rw [List.takeWhile_append_of_pos fun d hd => by simpa using fun hdc : d = c => h (hdc ▸ hd),
    List.takeWhile_cons_of_neg (by simp), List.append_nil]

theorem dropWhile_ne_append {c : Char} {cs : List Char} (h : c ∉ cs) (rest : List Char) :
    (cs ++ c :: rest).dropWhile (· != c) = c :: rest := by
  rw [List.dropWhile_append_of_pos fun d hd => by simpa using fun hdc : d = c => h (hdc ▸ hd),
    List.dropWhile_cons_of_neg (by simp)]

/-- A text is cut at the brackets that it was put into. -/
theorem cutBracketed_append (hopener : opener ∉ before) (hcloser : closer ∉ before)
    (hinner : closer ∉ inner) (after : List Char) :
    cutBracketed opener closer (before ++ opener :: (inner ++ closer :: after)) =
      some (before, inner, after) := by
  rw [cutBracketed, takeWhile_ne_append hopener, dropWhile_ne_append hopener]
  simp only [List.contains_eq_mem, hcloser, decide_false, Bool.false_eq_true, if_false]
  rw [dropWhile_ne_append hinner, takeWhile_ne_append hinner]

theorem cutBracketed_eq_none {cs : List Char} (h : opener ∉ cs) :
    cutBracketed opener closer cs = none := by
  have hdrop : cs.dropWhile (· != opener) = [] :=
    List.dropWhile_eq_nil_iff.2 fun c hc => by simpa using fun hco : c = opener => h (hco ▸ hc)
  rw [cutBracketed, hdrop]

theorem cutBracketed_eq_none_of_mem (hopener : opener ∉ before) (hcloser : closer ∈ before)
    (rest : List Char) : cutBracketed opener closer (before ++ opener :: rest) = none := by
  rw [cutBracketed, takeWhile_ne_append hopener, dropWhile_ne_append hopener]
  simp [hcloser]

theorem cutBracketed_eq_none_of_notMem (hopener : opener ∉ before) {rest : List Char}
    (hcloser : closer ∉ rest) : cutBracketed opener closer (before ++ opener :: rest) = none := by
  have hdrop : rest.dropWhile (· != closer) = [] :=
    List.dropWhile_eq_nil_iff.2 fun c hc => by simpa using fun h : c = closer => hcloser (h ▸ hc)
  rw [cutBracketed, takeWhile_ne_append hopener, dropWhile_ne_append hopener]
  simp [hdrop]

variable {keep : Char → Bool}

theorem not_keep_or_ne {c : Char} (hc : keep c = true) :
    (fun d => !keep d || d != c) = (· != c) := by
  funext d
  by_cases hd : d = c
  · simp [hd, hc]
  · simp [hd]

/-- A text from which characters other than the brackets are removed is cut at the same
brackets. -/
theorem cutBracketed_filter (hopener : keep opener = true) (hcloser : keep closer = true)
    (cs : List Char) :
    cutBracketed opener closer (cs.filter keep) =
      (cutBracketed opener closer cs).map fun (before, inner, after) =>
        (before.filter keep, inner.filter keep, after.filter keep) := by
  rw [cutBracketed, cutBracketed, List.takeWhile_filter, List.dropWhile_filter,
    not_keep_or_ne hopener]
  have hfirst := List.head?_dropWhile_not (· != opener) cs
  cases hdrop : cs.dropWhile (· != opener) with
  | nil => rfl
  | cons c rest =>
    obtain rfl : c = opener := by simpa [hdrop] using hfirst
    have hcontains : ((cs.takeWhile (· != c)).filter keep).contains closer =
        (cs.takeWhile (· != c)).contains closer := by
      simp [List.contains_eq_mem, List.mem_filter, hcloser]
    simp only [List.filter_cons_of_pos hopener, hcontains]
    cases (cs.takeWhile (· != c)).contains closer with
    | true => rfl
    | false =>
      rw [List.takeWhile_filter, List.dropWhile_filter, not_keep_or_ne hcloser]
      have hlast := List.head?_dropWhile_not (· != closer) rest
      cases hdrop : rest.dropWhile (· != closer) with
      | nil => rfl
      | cons d after =>
        obtain rfl : d = closer := by simpa [hdrop] using hlast
        rw [List.filter_cons_of_pos hcloser]
        rfl

end Bracketed

end WireSchema.Text
