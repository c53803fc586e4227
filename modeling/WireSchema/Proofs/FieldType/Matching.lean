import WireSchema.Proofs.FieldType.Spelling

/-!
# The two ways to recognise a scalar

`Matching.token` looks at the words before the first mark of a type text, `Matching.substring` at
the whole text. On every text, of the grammar or not, a scalar that the first one recognises makes
the second one recognise a scalar too, although not always the same. Neither of them removes a
bracket or a pointer mark from the text, so both read the same number of pointers.

## Main definitions

* `Scalar.signed`: the scalar that the last word of a scalar's name names.
* `FieldType.outerStars`: the pointer marks outside the first pair of angle brackets.

## Main results

* `Matching.filter_recognise`: recognition keeps the angle brackets and the pointer marks.
* `FieldType.depth_read`: the number of pointers does not depend on the matching.
* `Matching.tokenMatch_cases`, `Matching.substringMatch_cases`: the outcomes of recognition.
* `Matching.contains_of_normalize`: what the words before the marks name occurs in the text.
* `FieldType.matchings_agree`: how the two matchings relate.
-/

namespace WireSchema

open Text

/-! ### Pointer marks outside the angle brackets -/

namespace FieldType

/-- Does the character decide about the depth of a type? -/
def isDepthMark (c : Char) : Bool :=
  c == '<' || c == '>' || c == '*'

/-- The number of pointer marks outside the part from the first `<` to the first `>`, or of all
pointer marks where the first `>` does not follow the first `<`. -/
def outerStars (cs : List Char) : Nat :=
  if cs.idxOf '<' < cs.idxOf '>' ∧ cs.idxOf '>' < cs.length then
    (cs.take (cs.idxOf '<') ++ cs.drop (cs.idxOf '>' + 1)).count '*'
  else cs.count '*'

theorem splitParameter_of_none {cs : List Char} (h : cutBracketed '<' '>' cs = none) :
    (splitParameter cs).2 = cs := by
  rw [splitParameter, h]

theorem splitParameter_of_some {cs before inner after : List Char}
    (h : cutBracketed '<' '>' cs = some (before, inner, after)) :
    (splitParameter cs).2 = before ++ after := by
  rw [splitParameter, h]

/-- The pointer marks outside the angle brackets are the ones that are left when the parameter is
split off. -/
theorem count_splitParameter (cs : List Char) :
    (splitParameter cs).2.count pointerMark = outerStars cs := by
  by_cases hopener : '<' ∈ cs
  · obtain ⟨before, rest, rfl, hbefore⟩ := List.eq_append_cons_of_mem hopener
    have hfirst : (before ++ '<' :: rest).idxOf '<' = before.length := by
      rw [List.idxOf_append_of_notMem hbefore, List.idxOf_cons_self, Nat.add_zero]
    by_cases hcloser : '>' ∈ before
    · -- the closing bracket comes first, and nothing is cut
      have hlt := List.idxOf_lt_length_iff.2 hcloser
      rw [splitParameter_of_none (cutBracketed_eq_none_of_mem hbefore hcloser rest), outerStars,
        if_neg, pointerMark]
      rw [hfirst, List.idxOf_append_of_mem hcloser]
      omega
    · have hsecond : (before ++ '<' :: rest).idxOf '>' = before.length + (rest.idxOf '>' + 1) := by
        rw [List.idxOf_append_of_notMem hcloser, List.idxOf_cons_ne _ (by decide)]
      by_cases hrest : '>' ∈ rest
      · obtain ⟨inner, after, rfl, hinner⟩ := List.eq_append_cons_of_mem hrest
        have hclosed : (inner ++ '>' :: after).idxOf '>' = inner.length := by
          rw [List.idxOf_append_of_notMem hinner, List.idxOf_cons_self, Nat.add_zero]
        have hdrop : (before ++ '<' :: (inner ++ '>' :: after)).drop
            (before.length + (inner.length + 1) + 1) = after := by
          have hsplit : before ++ '<' :: (inner ++ '>' :: after) =
              (before ++ '<' :: (inner ++ ['>'])) ++ after := by simp
          rw [hsplit]
          exact List.drop_left' (by simp [Nat.add_assoc])
        rw [splitParameter_of_some (cutBracketed_append hbefore hcloser hinner after), outerStars,
          if_pos, hfirst, hsecond, hclosed, List.take_left, hdrop, pointerMark]
        rw [hfirst, hsecond, hclosed]
        simp
      · rw [splitParameter_of_none (cutBracketed_eq_none_of_notMem hbefore hrest), outerStars,
          if_neg, pointerMark]
        rw [hsecond, List.idxOf_eq_length hrest]
        simp
  · have hle := @List.idxOf_le_length _ _ _ cs '>'
    rw [splitParameter_of_none (cutBracketed_eq_none hopener), outerStars, if_neg, pointerMark]
    rw [List.idxOf_eq_length hopener]
    omega

/-- The pointer marks outside the angle brackets do not depend on characters other than these. -/
theorem outerStars_filter (cs : List Char) :
    outerStars (cs.filter isDepthMark) = outerStars cs := by
  have hopener : isDepthMark '<' = true := rfl
  have hcloser : isDepthMark '>' = true := rfl
  have hstar : isDepthMark pointerMark = true := rfl
  have hcut := cutBracketed_filter hopener hcloser cs
  rw [← count_splitParameter, ← count_splitParameter]
  cases h : cutBracketed '<' '>' cs with
  | none =>
    rw [h] at hcut
    rw [splitParameter_of_none h, splitParameter_of_none hcut, List.count_filter hstar]
  | some cut =>
    rw [h] at hcut
    rw [splitParameter_of_some h, splitParameter_of_some hcut, ← List.filter_append,
      List.count_filter hstar]

end FieldType

/-! ### Recognition -/

namespace Scalar

/-- The scalar that the last word of a scalar's name names. -/
def signed : Scalar → Scalar
  | unsignedLong => long
  | unsignedInt => int
  | unsignedShort => short
  | unsignedChar => char
  | s => s

theorem isDepthMark_of_mem_name (b : Scalar) :
    ∀ c ∈ b.name.toList, FieldType.isDepthMark c = false := by
  cases b <;> simp [Scalar.name, FieldType.isDepthMark]

theorem signed_name_mem_words (b : Scalar) : b.signed.name.toList ∈ words b.name.toList := by
  cases b <;> decide

theorem mem_all (b : Scalar) : b ∈ all := by
  cases b <;> decide

/-- The scalar of the last word is tried before the scalar itself. -/
theorem signed_mem_of_all_eq {b : Scalar} {before after : List Scalar}
    (h : all = before ++ b :: after) (hbefore : b ∉ before) (hne : b.signed ≠ b) :
    b.signed ∈ before := by
  have hfirst : all.takeWhile (· != b) = before := by
    have hother : ∀ s ∈ before, (s != b) = true := fun s hs => by
      simpa using fun hsb : s = b => hbefore (hsb ▸ hs)
    rw [h, List.takeWhile_append_of_pos hother, List.takeWhile_cons_of_neg (by simp),
      List.append_nil]
  rw [← hfirst]
  revert hne
  cases b <;> decide

end Scalar

namespace Matching

theorem isBlank_of_isDepthMark {c : Char} (h : FieldType.isDepthMark c = true) :
    isBlank c = false := by
  simp only [FieldType.isDepthMark, Bool.or_eq_true, beq_iff_eq] at h
  obtain (rfl | rfl) | rfl := h <;> rfl

/-- The words before the marks of a text, where they name a scalar, hold no bracket. -/
theorem filter_of_normalize {cs : List Char} {b : Scalar} (h : b.name.toList = normalize cs) :
    cs.filter FieldType.isDepthMark = [] := by
  refine List.filter_eq_nil_iff.2 fun c hc hmark => ?_
  have hname : c ∈ b.name.toList := h ▸ mem_normalize (isBlank_of_isDepthMark hmark) hc
  rw [b.isDepthMark_of_mem_name c hname] at hmark
  exact Bool.false_ne_true hmark

/-- The two outcomes of looking at the words before the marks. -/
theorem tokenMatch_cases (cs : List Char) :
    (∃ b : Scalar, b.name.toList = normalize (cs.takeWhile (!isMark ·)) ∧
      tokenMatch cs = (some b, cs.dropWhile (!isMark ·))) ∨
    tokenMatch cs = (none, cs) := by
  unfold tokenMatch
  cases h : Scalar.named? (normalize (cs.takeWhile (!isMark ·))) with
  | some b => exact .inl ⟨b, Scalar.named?_eq_some_iff.1 h, rfl⟩
  | none => exact .inr rfl

/-- The two outcomes of looking at the whole text. A scalar that is found there is named by one
word, since the scalar of the last word of a name is tried before the name itself. -/
theorem substringMatch_cases (cs : List Char) :
    (∃ s : Scalar, contains s.name.toList cs = true ∧ s.signed = s ∧
      substringMatch cs = (some s, eraseFirst s.name.toList cs)) ∨
    (∀ s : Scalar, contains s.name.toList cs = false) ∧ substringMatch cs = (none, cs) := by
  unfold substringMatch
  cases h : Scalar.all.find? fun s => contains s.name.toList cs with
  | none =>
    refine .inr ⟨fun s => ?_, rfl⟩
    simpa using List.find?_eq_none.1 h s s.mem_all
  | some s =>
    obtain ⟨hs, before, after, hall, hbefore⟩ := List.find?_eq_some_iff_append.1 h
    refine .inl ⟨s, hs, ?_, rfl⟩
    by_contra hne
    have hfirst : s ∉ before := fun hmem => by simpa [hs] using hbefore s hmem
    have hword := infix_of_mem_words s.signed_name_mem_words
    have hcontains := contains_of_infix (contains_eq_true_iff.2 hword) (contains_eq_true_iff.1 hs)
    simpa [hcontains] using hbefore _ (Scalar.signed_mem_of_all_eq hall hfirst hne)

/-- Recognition keeps the angle brackets and the pointer marks of a text. -/
theorem filter_recognise (matching : Matching) (cs : List Char) :
    (matching.recognise cs).2.filter FieldType.isDepthMark = cs.filter FieldType.isDepthMark := by
  cases matching with
  | substring =>
    rw [recognise]
    obtain ⟨s, -, -, heq⟩ | ⟨-, heq⟩ := substringMatch_cases cs
    · rw [heq]
      exact filter_eraseFirst s.isDepthMark_of_mem_name cs
    · rw [heq]
  | token =>
    rw [recognise]
    obtain ⟨b, hname, heq⟩ | heq := tokenMatch_cases cs
    · have hsplit := @List.takeWhile_append_dropWhile _ (!isMark ·) cs
      conv_rhs => rw [← hsplit, List.filter_append, filter_of_normalize hname, List.nil_append]
      rw [heq]
    · rw [heq]

/-- What the words before the marks name occurs in the text, or its last word does. -/
theorem contains_of_normalize {cs : List Char} {b : Scalar}
    (h : b.name.toList = normalize (cs.takeWhile (!isMark ·))) :
    contains b.signed.name.toList cs = true := by
  have hword : b.signed.name.toList ∈ words (cs.takeWhile (!isMark ·)) := by
    rw [← words_normalize, ← h]
    exact b.signed_name_mem_words
  exact contains_eq_true_iff.2 ((infix_of_mem_words hword).trans (List.takeWhile_prefix _).isInfix)

/-- Where no scalar occurs in a text, neither way of matching recognises one. -/
theorem tokenMatch_of_not_contains {cs : List Char}
    (h : ∀ s : Scalar, contains s.name.toList cs = false) : tokenMatch cs = (none, cs) := by
  obtain ⟨b, hname, -⟩ | heq := tokenMatch_cases cs
  · have hcontains := contains_of_normalize hname
    rw [h] at hcontains
    exact absurd hcontains Bool.false_ne_true
  · exact heq

end Matching

namespace FieldType

/-- The number of pointers does not depend on how a scalar is recognised. -/
theorem depth_read (matching : Matching) (raw : String) :
    (read matching raw).depth = outerStars raw.toList := by
  calc (read matching raw).depth
      = (eraseFirst arrayMark (splitParameter (matching.recognise raw.toList).2).2).count
          pointerMark := rfl
    _ = (splitParameter (matching.recognise raw.toList).2).2.count pointerMark :=
        count_eraseFirst (by decide) _
    _ = outerStars (matching.recognise raw.toList).2 := count_splitParameter _
    _ = outerStars raw.toList := by
        rw [← outerStars_filter, Matching.filter_recognise, outerStars_filter]

/-- Where no scalar is recognised anywhere in a text, both ways of matching read the same. -/
theorem read_eq_of_not_isBuiltin {raw : String} (h : (read .substring raw).isBuiltin = false) :
    read .substring raw = read .token raw := by
  obtain ⟨s, -, -, heq⟩ | ⟨hnone, heq⟩ := Matching.substringMatch_cases raw.toList
  · have hscalar : (read .substring raw).scalar = some s := congrArg Prod.fst heq
    rw [isBuiltin, hscalar] at h
    exact absurd h (by simp)
  · have hsame : Matching.substring.recognise raw.toList = Matching.token.recognise raw.toList :=
      heq.trans (Matching.tokenMatch_of_not_contains hnone).symm
    simp only [read, hsame]

/-- A scalar that is found anywhere and not followed by a parameter is named by one word. -/
theorem base_read_substring {raw : String} (h : (read .substring raw).isBuiltin = true)
    (hparameter : (read .substring raw).parameter = none) :
    ∃ s : Scalar, s.signed = s ∧ (read .substring raw).base = s.name := by
  obtain ⟨s, -, hsigned, heq⟩ | ⟨-, heq⟩ := Matching.substringMatch_cases raw.toList
  · have hscalar : (read .substring raw).scalar = some s := congrArg Prod.fst heq
    refine ⟨s, hsigned, ?_⟩
    rw [base, hparameter, hscalar]
  · have hscalar : (read .substring raw).scalar = none := congrArg Prod.fst heq
    rw [isBuiltin, hscalar] at h
    exact absurd h (by simp)

/-- **How the two matchings relate, on every text.** A scalar recognised before the marks makes a
scalar recognised anywhere; where none is recognised anywhere the two readings are the same. Both
count the pointer marks outside the first angle brackets. A scalar that is found anywhere and not
followed by a parameter is never one of the unsigned ones. -/
theorem matchings_agree (raw : String) :
    ((read .token raw).isBuiltin = true → (read .substring raw).isBuiltin = true) ∧
    ((read .substring raw).isBuiltin = false → read .substring raw = read .token raw) ∧
    (∀ matching, (read matching raw).depth = outerStars raw.toList) ∧
    ((read .substring raw).isBuiltin = true → (read .substring raw).parameter = none →
      (read .substring raw).base ∉
        ["unsigned long", "unsigned int", "unsigned short", "unsigned char"]) := by
  refine ⟨fun h => ?_, read_eq_of_not_isBuiltin, fun matching => depth_read matching raw, ?_⟩
  · cases hsub : (read .substring raw).isBuiltin with
    | true => rfl
    | false =>
      rw [← read_eq_of_not_isBuiltin hsub, hsub] at h
      exact h
  · intro h hparameter
    obtain ⟨s, hsigned, hbase⟩ := base_read_substring h hparameter
    rw [hbase]
    revert hsigned
    cases s <;> decide

/-- Both ways of matching take a scalar from the first text, different ones, and none from the
second; the pointer mark in its parameter is not counted. -/
theorem matchings_agree_unsigned :
    (read .token "unsigned  int*").isBuiltin = true ∧
    (read .substring "unsigned  int*").isBuiltin = true ∧
    (read .substring "unsigned  int*").base ≠ (read .token "unsigned  int*").base ∧
    (read .substring "]Map<K*>[**").isBuiltin = false ∧
    read .substring "]Map<K*>[**" = read .token "]Map<K*>[**" ∧
    (read .substring "]Map<K*>[**").depth = 2 := by
  obtain ⟨hbuiltin, -, -, hunsigned⟩ := matchings_agree "unsigned  int*"
  obtain ⟨-, hsame, hdepth, -⟩ := matchings_agree "]Map<K*>[**"
  have htoken : (read .token "unsigned  int*").isBuiltin = true := by decide
  have hbase : (read .token "unsigned  int*").base = "unsigned int" := by decide
  have hnone : (read .substring "]Map<K*>[**").isBuiltin = false := by decide
  refine ⟨htoken, hbuiltin htoken, ?_, hnone, hsame hnone, (hdepth .substring).trans (by decide)⟩
  rw [hbase]
  intro heq
  exact hunsigned (hbuiltin htoken) (by decide) (heq ▸ by decide)

end FieldType

end WireSchema
