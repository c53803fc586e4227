import Mathlib.Data.List.Infix
import Mathlib.Data.List.TakeWhile
import Mathlib.Tactic.Common
import WireSchema.Text.Blank

/-!
# The words of a text

The words of a text are runs of characters that are not blank, each of them a part of the text,
and together they hold all its characters that are not blank. Words that are joined by spaces are
the words of the joined text, so a normalized text has the words of the text itself.

## Main definitions

* `IsWord`: a run of characters that are not blank.

## Main results

* `infix_of_mem_words`: a word is a part of the text.
* `exists_word_of_infix`: a part of the text without blanks lies in one word.
* `words_normalize`: normalizing keeps the words.
* `normalize_isPrefix_append`: a text that goes on is normalized to a text that goes on.
* `mem_normalize`: normalizing keeps the characters that are not blank.
* `trim_eq_self`: a text without blanks at its ends is trimmed.
-/

namespace WireSchema.Text

/-- A run of at least one character, none of them blank. -/
def IsWord (w : List Char) : Prop :=
  w ≠ [] ∧ ∀ c ∈ w, isBlank c = false

/-! ### Splitting -/

theorem mem_wordsFrom_nil {run w : List Char} : w ∈ wordsFrom run [] ↔ w = run ∧ w ≠ [] := by
  rw [wordsFrom]
  split_ifs with hempty
  · simp [List.isEmpty_iff.1 hempty]
  · have hne : run ≠ [] := fun h => hempty (List.isEmpty_iff.2 h)
    rw [List.mem_singleton, iff_self_and]
    exact fun h => h ▸ hne

/-- A blank ends the word that has begun. -/
theorem wordsFrom_cons_blank {c : Char} (hc : isBlank c = true) (run cs : List Char) :
    wordsFrom run (c :: cs) = wordsFrom run [] ++ words cs := by
  simp only [wordsFrom, hc, if_true]
  split_ifs <;> rfl

theorem wordsFrom_cons_of_not_blank {c : Char} (hc : isBlank c = false) (run cs : List Char) :
    wordsFrom run (c :: cs) = wordsFrom (run ++ [c]) cs := by
  rw [wordsFrom, if_neg (by simp [hc])]

/-- Characters that are not blank belong to the word that has begun. -/
theorem wordsFrom_append {cs : List Char} (h : ∀ c ∈ cs, isBlank c = false) (run rest : List Char) :
    wordsFrom run (cs ++ rest) = wordsFrom (run ++ cs) rest := by
  induction cs generalizing run with
  | nil => rw [List.nil_append, List.append_nil]
  | cons c cs ih =>
    rw [List.cons_append, wordsFrom_cons_of_not_blank (h c List.mem_cons_self),
      ih (fun d hd => h d (List.mem_cons_of_mem c hd)), List.append_assoc, List.singleton_append]

theorem isWord_of_mem_wordsFrom {run cs w : List Char} (hrun : ∀ c ∈ run, isBlank c = false)
    (hw : w ∈ wordsFrom run cs) : IsWord w := by
  induction cs generalizing run with
  | nil =>
    obtain ⟨rfl, hne⟩ := mem_wordsFrom_nil.1 hw
    exact ⟨hne, hrun⟩
  | cons c cs ih =>
    cases hc : isBlank c with
    | true =>
      rw [wordsFrom_cons_blank hc, List.mem_append] at hw
      obtain hw | hw := hw
      · obtain ⟨rfl, hne⟩ := mem_wordsFrom_nil.1 hw
        exact ⟨hne, hrun⟩
      · exact ih (by simp) hw
    | false =>
      rw [wordsFrom_cons_of_not_blank hc] at hw
      refine ih (fun d hd => ?_) hw
      obtain hd | hd := List.mem_append.1 hd
      · exact hrun d hd
      · rw [List.mem_singleton.1 hd, hc]

theorem isWord_of_mem_words {cs w : List Char} (hw : w ∈ words cs) : IsWord w :=
  isWord_of_mem_wordsFrom (by simp) hw

theorem infix_of_mem_wordsFrom {run cs w : List Char} (hw : w ∈ wordsFrom run cs) :
    w <:+: run ++ cs := by
  induction cs generalizing run with
  | nil => rw [(mem_wordsFrom_nil.1 hw).1, List.append_nil]
  | cons c cs ih =>
    cases hc : isBlank c with
    | true =>
      rw [wordsFrom_cons_blank hc, List.mem_append] at hw
      obtain hw | hw := hw
      · rw [(mem_wordsFrom_nil.1 hw).1]
        exact (List.prefix_append run (c :: cs)).isInfix
      · exact (ih hw).trans ⟨run ++ [c], [], by simp⟩
    | false =>
      rw [wordsFrom_cons_of_not_blank hc] at hw
      simpa using ih hw

/-- A word is a part of the text. -/
theorem infix_of_mem_words {cs w : List Char} (hw : w ∈ words cs) : w <:+: cs :=
  infix_of_mem_wordsFrom hw

theorem exists_mem_wordsFrom {run cs : List Char} {c : Char} (hc : isBlank c = false)
    (h : c ∈ run ∨ c ∈ cs) : ∃ w ∈ wordsFrom run cs, c ∈ w := by
  induction cs generalizing run with
  | nil =>
    have hrun : c ∈ run := by simpa using h
    exact ⟨run, mem_wordsFrom_nil.2 ⟨rfl, List.ne_nil_of_mem hrun⟩, hrun⟩
  | cons d cs ih =>
    cases hd : isBlank d with
    | true =>
      rw [wordsFrom_cons_blank hd]
      have hne : c ≠ d := fun hcd => by simp [hcd, hd] at hc
      obtain hrun | hcs := h
      · have hmem := mem_wordsFrom_nil.2 ⟨rfl, List.ne_nil_of_mem hrun⟩
        exact ⟨run, List.mem_append_left _ hmem, hrun⟩
      · obtain ⟨w, hw, hcw⟩ := @ih [] (.inr ((List.mem_cons.1 hcs).resolve_left hne))
        exact ⟨w, List.mem_append_right _ hw, hcw⟩
    | false =>
      rw [wordsFrom_cons_of_not_blank hd]
      refine ih ?_
      simpa [or_assoc] using h

theorem infix_of_infix_append_cons {cs before after : List Char} {c : Char} (hc : c ∉ cs)
    (h : cs <:+: before ++ c :: after) : cs <:+: before ∨ cs <:+: after := by
  have hnil : ∀ {l : List Char}, l ⊆ cs → l <+: c :: after → l = [] := by
    intro l hl hpre
    cases l with
    | nil => rfl
    | cons d l => exact absurd (hl (by simp [(List.cons_prefix_cons.1 hpre).1])) hc
  obtain h | h | ⟨left, right, rfl, hleft, hright⟩ := List.infix_append_iff.1 h
  · exact .inl h
  · obtain h | h := List.infix_cons_iff.1 h
    · rw [hnil (List.Subset.refl cs) h]
      exact .inl List.nil_infix
    · exact .inr h
  · rw [hnil (List.subset_append_right left right) hright, List.append_nil]
    exact .inl hleft.isInfix

theorem exists_mem_wordsFrom_of_infix {run cs w : List Char} (hw : IsWord w)
    (h : w <:+: run ++ cs) : ∃ v ∈ wordsFrom run cs, w <:+: v := by
  induction cs generalizing run with
  | nil =>
    rw [List.append_nil] at h
    have hrun : run ≠ [] := fun hnil => hw.1 (List.eq_nil_of_infix_nil (hnil ▸ h))
    exact ⟨run, mem_wordsFrom_nil.2 ⟨rfl, hrun⟩, h⟩
  | cons c cs ih =>
    cases hc : isBlank c with
    | true =>
      -- a blank cannot stand in the word
      have hcw : c ∉ w := fun hmem => by simp [hw.2 c hmem] at hc
      rw [wordsFrom_cons_blank hc]
      obtain h | h := infix_of_infix_append_cons hcw h
      · have hrun : run ≠ [] := fun hnil => hw.1 (List.eq_nil_of_infix_nil (hnil ▸ h))
        exact ⟨run, List.mem_append_left _ (mem_wordsFrom_nil.2 ⟨rfl, hrun⟩), h⟩
      · obtain ⟨v, hv, hwv⟩ := @ih [] h
        exact ⟨v, List.mem_append_right _ hv, hwv⟩
    | false =>
      rw [wordsFrom_cons_of_not_blank hc]
      exact ih (by simpa using h)

/-- A run of characters that are not blank lies in one word of the text. -/
theorem exists_word_of_infix {cs w : List Char} (hw : IsWord w) (h : w <:+: cs) :
    ∃ v ∈ words cs, w <:+: v := by
  rw [← List.nil_append cs] at h
  exact exists_mem_wordsFrom_of_infix hw h

/-! ### Joining -/

theorem words_of_isWord {w : List Char} (hw : IsWord w) : words w = [w] := by
  have hrun := wordsFrom_append hw.2 [] []
  rw [List.append_nil, List.nil_append] at hrun
  rw [words, hrun, wordsFrom, if_neg (by simpa using hw.1)]

theorem words_append_blank {w : List Char} (hw : IsWord w) {c : Char} (hc : isBlank c = true)
    (cs : List Char) : words (w ++ c :: cs) = w :: words cs := by
  rw [words, wordsFrom_append hw.2, List.nil_append, wordsFrom_cons_blank hc, wordsFrom,
    if_neg (by simpa using hw.1), List.singleton_append]

/-- Words that are joined by spaces are the words of the joined text. -/
theorem words_intercalate {ws : List (List Char)} (h : ∀ w ∈ ws, IsWord w) :
    words (List.intercalate [' '] ws) = ws := by
  induction ws with
  | nil => rfl
  | cons w ws ih =>
    have hw := h w List.mem_cons_self
    have hws := ih fun w' hw' => h w' (List.mem_cons_of_mem w hw')
    cases ws with
    | nil => simpa using words_of_isWord hw
    | cons w' ws =>
      rw [List.intercalate_cons_cons, List.append_assoc, List.singleton_append,
        words_append_blank hw (by decide), hws]

/-- A normalized text has the words of the text. -/
theorem words_normalize (cs : List Char) : words (normalize cs) = words cs :=
  words_intercalate fun _ hw => isWord_of_mem_words hw

theorem isPrefix_intercalate_cons (w : List Char) (ws : List (List Char)) :
    w <+: List.intercalate [' '] (w :: ws) := by
  cases ws with
  | nil => rw [List.intercalate_singleton]
  | cons w' ws =>
    rw [List.intercalate_cons_cons, List.append_assoc]
    exact List.prefix_append w _

/-- Joined texts begin with fewer of them, if those that are left out come last. -/
theorem intercalate_cons_isPrefix {w : List Char} {ws ws' : List (List Char)}
    (hne : ∀ w ∈ ws, w ≠ []) (h : List.intercalate [' '] ws <+: List.intercalate [' '] ws') :
    List.intercalate [' '] (w :: ws) <+: List.intercalate [' '] (w :: ws') := by
  cases ws with
  | nil =>
    rw [List.intercalate_singleton]
    exact isPrefix_intercalate_cons w ws'
  | cons v ws =>
    cases ws' with
    | nil =>
      have hv := (isPrefix_intercalate_cons v ws).trans h
      exact absurd (List.prefix_nil.1 hv) (hne v List.mem_cons_self)
    | cons v' ws' =>
      rw [List.intercalate_cons_cons, List.intercalate_cons_cons]
      exact (List.prefix_append_right_inj _).2 h

theorem subset_intercalate {ws : List (List Char)} {w : List Char} (hw : w ∈ ws)
    (sep : List Char) : w ⊆ List.intercalate sep ws := by
  induction ws with
  | nil => simp at hw
  | cons v ws ih =>
    cases ws with
    | nil => simp_all
    | cons v' ws =>
      rw [List.intercalate_cons_cons]
      obtain rfl | hw := List.mem_cons.1 hw
      · exact fun c hc => List.mem_append_left _ (List.mem_append_left _ hc)
      · exact fun c hc => List.mem_append_right _ (ih hw hc)

/-- The word that has begun stands in front of all others. -/
theorem isPrefix_intercalate_wordsFrom (run cs : List Char) :
    run <+: List.intercalate [' '] (wordsFrom run cs) := by
  induction cs generalizing run with
  | nil =>
    rw [wordsFrom]
    split_ifs with hempty
    · rw [List.isEmpty_iff.1 hempty]
      exact List.nil_prefix
    · rw [List.intercalate_singleton]
  | cons c cs ih =>
    cases hc : isBlank c with
    | true =>
      rw [wordsFrom_cons_blank hc, wordsFrom]
      split_ifs with hempty
      · rw [List.isEmpty_iff.1 hempty]
        exact List.nil_prefix
      · exact isPrefix_intercalate_cons run (words cs)
    | false =>
      rw [wordsFrom_cons_of_not_blank hc]
      exact (List.prefix_append run [c]).trans (ih (run ++ [c]))

theorem intercalate_wordsFrom_isPrefix (run cs rest : List Char) :
    List.intercalate [' '] (wordsFrom run cs) <+:
      List.intercalate [' '] (wordsFrom run (cs ++ rest)) := by
  induction cs generalizing run with
  | nil =>
    rw [wordsFrom]
    split_ifs
    · exact List.nil_prefix
    · rw [List.intercalate_singleton]
      exact isPrefix_intercalate_wordsFrom run rest
  | cons c cs ih =>
    cases hc : isBlank c with
    | true =>
      rw [List.cons_append, wordsFrom_cons_blank hc, wordsFrom_cons_blank hc, wordsFrom]
      split_ifs
      · exact ih []
      · exact intercalate_cons_isPrefix (fun w hw => (isWord_of_mem_words hw).1) (ih [])
    | false =>
      rw [List.cons_append, wordsFrom_cons_of_not_blank hc, wordsFrom_cons_of_not_blank hc]
      exact ih (run ++ [c])

/-- A text that goes on keeps what it is normalized to and goes on from there. -/
theorem normalize_isPrefix_append (cs rest : List Char) :
    normalize cs <+: normalize (cs ++ rest) :=
  intercalate_wordsFrom_isPrefix [] cs rest

/-- Normalizing keeps the characters that are not blank. -/
theorem mem_normalize {cs : List Char} {c : Char} (hc : isBlank c = false) (h : c ∈ cs) :
    c ∈ normalize cs := by
  obtain ⟨w, hw, hcw⟩ := @exists_mem_wordsFrom [] cs c hc (.inr h)
  exact subset_intercalate hw [' '] hcw

/-! ### Trimming -/

/-- A text that neither begins nor ends with a blank is trimmed. -/
theorem trim_eq_self {cs : List Char} (hfirst : ∀ c ∈ cs.head?, isBlank c = false)
    (hlast : ∀ c ∈ cs.getLast?, isBlank c = false) : trim cs = cs := by
  have hdrop : ∀ {ds : List Char}, (∀ c ∈ ds.head?, isBlank c = false) →
      ds.dropWhile isBlank = ds := by
    intro ds hds
    cases ds with
    | nil => rfl
    | cons d ds => exact List.dropWhile_cons_of_neg (by simp [hds d rfl])
  rw [trim, hdrop hfirst, trimEnd, hdrop (by simpa using hlast), List.reverse_reverse]

end WireSchema.Text
