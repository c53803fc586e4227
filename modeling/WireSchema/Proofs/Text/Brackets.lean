import Mathlib.Data.List.Basic
import WireSchema.Proofs.Text.Characters
import WireSchema.Text.Case

/-!
# Nested brackets

Of a text only its parentheses and braces are looked at here. A text is nested when every closing
bracket closes the innermost bracket that is open, and no bracket is left open. A nested text can
be put anywhere into a nested text.

## Main definitions

* `Mark`, `marks`: the brackets of a text.
* `openAfter`: the brackets that are open after a row of brackets.
* `IsNested`: a text whose brackets are nested.
* `IsPlain`: a text without brackets.

## Main results

* `IsNested.insert`: a nested text inside a nested text.
* `IsNested.join`, `IsNested.intercalate`: nested texts one after another.
* `isPlain_upper`: upper case brings no brackets.
-/

namespace WireSchema.Text

/-- A kind of bracket. -/
inductive Bracket
  | paren
  | brace
  deriving DecidableEq, Repr

/-- A bracket in a text. -/
inductive Mark
  | opening (b : Bracket)
  | closing (b : Bracket)
  deriving DecidableEq, Repr

/-- The bracket that a character is. -/
def mark? : Char → Option Mark
  | '(' => some (.opening .paren)
  | ')' => some (.closing .paren)
  | '\x7b' => some (.opening .brace)
  | '\x7d' => some (.closing .brace)
  | _ => none

/-- The brackets of a text, in order. -/
def marks (text : String) : List Mark :=
  text.toList.filterMap mark?

/-- The brackets that are open after a row of brackets, the innermost first, where those of
`stack` were open before it. There is no answer if a closing bracket does not close the innermost
one. -/
def openAfter (stack : List Bracket) : List Mark → Option (List Bracket)
  | [] => some stack
  | .opening b :: ms => openAfter (b :: stack) ms
  | .closing b :: ms =>
    match stack with
    | [] => none
    | top :: rest => if top = b then openAfter rest ms else none

/-- A text in which every closing bracket closes the innermost bracket that is open, and no bracket
is left open. -/
def IsNested (text : String) : Prop :=
  openAfter [] (marks text) = some []

instance (text : String) : Decidable (IsNested text) :=
  inferInstanceAs (Decidable (_ = _))

/-- A text without brackets. -/
def IsPlain (text : String) : Prop :=
  marks text = []

instance (text : String) : Decidable (IsPlain text) :=
  inferInstanceAs (Decidable (_ = _))

/-! ### Rows of brackets -/

theorem marks_append (a b : String) : marks (a ++ b) = marks a ++ marks b := by
  rw [marks, String.toList_append, List.filterMap_append]
  rfl

theorem openAfter_append (stack : List Bracket) (ms ms' : List Mark) :
    openAfter stack (ms ++ ms') = (openAfter stack ms).bind (openAfter · ms') := by
  induction ms generalizing stack with
  | nil => rfl
  | cons m ms ih =>
    cases m with
    | opening b => exact ih (b :: stack)
    | closing b =>
      cases stack with
      | nil => rfl
      | cons top stack =>
        simp only [List.cons_append, openAfter]
        split_ifs
        · exact ih stack
        · rfl

/-- Brackets that are open around a row of brackets stay open. -/
theorem openAfter_frame {stack left : List Bracket} {ms : List Mark}
    (h : openAfter stack ms = some left) (outer : List Bracket) :
    openAfter (stack ++ outer) ms = some (left ++ outer) := by
  induction ms generalizing stack with
  | nil =>
    obtain rfl := Option.some.inj h
    rfl
  | cons m ms ih =>
    cases m with
    | opening b => exact @ih (b :: stack) h
    | closing b =>
      cases stack with
      | nil => cases h
      | cons top stack =>
        simp only [openAfter, List.cons_append] at h ⊢
        split_ifs at h ⊢ with hb
        exact ih h

/-! ### Nested texts -/

variable {a b left right text : String}

/-- A nested text leaves the open brackets around it as they are. -/
theorem IsNested.openAfter (h : IsNested text) (stack : List Bracket) :
    openAfter stack (marks text) = some stack :=
  openAfter_frame h stack

theorem IsPlain.isNested (h : IsPlain text) : IsNested text := by
  rw [IsNested, h]
  rfl

/-- A nested text may stand anywhere in a nested text. -/
theorem IsNested.insert (h : IsNested (left ++ right)) (htext : IsNested text) :
    IsNested (left ++ text ++ right) := by
  rw [IsNested, marks_append, openAfter_append] at h
  rw [IsNested, marks_append, marks_append, openAfter_append, openAfter_append]
  cases hleft : Text.openAfter [] (marks left) with
  | none => simp [hleft] at h
  | some stack =>
    rw [hleft] at h
    rw [Option.bind_some, htext.openAfter]
    exact h

theorem IsNested.append (ha : IsNested a) (hb : IsNested b) : IsNested (a ++ b) := by
  rw [IsNested, marks_append, openAfter_append, ha.openAfter]
  exact hb

/-- A nested text in the brackets that follow another one. -/
theorem IsNested.append_insert (ha : IsNested a) (h : IsNested (left ++ right))
    (htext : IsNested text) : IsNested (a ++ left ++ text ++ right) := by
  refine IsNested.insert ?_ htext
  rw [String.append_assoc]
  exact ha.append h

theorem IsNested.join {texts : List String} (h : ∀ t ∈ texts, IsNested t) :
    IsNested (String.join texts) := by
  induction texts with
  | nil => decide
  | cons t texts ih =>
    rw [String.join_cons]
    exact (h t List.mem_cons_self).append (ih fun u hu => h u (List.mem_cons_of_mem t hu))

theorem IsNested.intercalate {separator : String} (hseparator : IsNested separator)
    {texts : List String} (h : ∀ t ∈ texts, IsNested t) :
    IsNested (separator.intercalate texts) := by
  induction texts with
  | nil => exact (by decide : IsNested "")
  | cons t texts ih =>
    have ht := h t List.mem_cons_self
    have htexts := ih fun u hu => h u (List.mem_cons_of_mem t hu)
    cases texts with
    | nil => simpa using ht
    | cons u texts =>
      rw [String.intercalate_cons_cons]
      exact (ht.append hseparator).append htexts

/-! ### Plain texts -/

theorem isPlain_append_iff : IsPlain (a ++ b) ↔ IsPlain a ∧ IsPlain b := by
  rw [IsPlain, marks_append, List.append_eq_nil_iff]
  rfl

theorem isPlain_iff : IsPlain text ↔ ∀ c ∈ text.toList, mark? c = none :=
  List.filterMap_eq_nil_iff

theorem isPlain_eq : IsPlain = AllChars (mark? · = none) :=
  funext fun _ => propext isPlain_iff

theorem isPlain_ofList_iff {cs : List Char} :
    IsPlain (String.ofList cs) ↔ ∀ c ∈ cs, mark? c = none := by
  rw [isPlain_iff, String.toList_ofList]

/-! ### Upper case -/

/-- No character is mapped to the code point `n`. -/
def Case.Avoids (special : List (Nat × List Nat)) (ranges : List CaseRange) (n : Nat) : Prop :=
  (∀ e ∈ special, n ∉ e.2) ∧
    ∀ r ∈ ranges, n < r.target ∨ r.target + (r.last - r.first) < n

instance (special : List (Nat × List Nat)) (ranges : List Case.CaseRange) (n : Nat) :
    Decidable (Case.Avoids special ranges n) :=
  inferInstanceAs (Decidable (_ ∧ _))

theorem eq_of_toNat_ofNat {k n : Nat} (hn : n ≠ 0) (h : (Char.ofNat k).toNat = n) : k = n := by
  by_cases hvalid : k.isValidChar
  · rw [Char.ofNat, dif_pos hvalid] at h
    exact h
  · rw [Char.ofNat, dif_neg hvalid] at h
    exact absurd h.symm hn

/-- A code point to which no character is mapped is met only where it stood before. -/
theorem Case.eq_of_mem_mapChar {special : List (Nat × List Nat)} {ranges : List CaseRange} {n : Nat}
    (hn : n ≠ 0) (h : Avoids special ranges n) {c c' : Char} (hmem : c' ∈ mapChar special ranges c)
    (hcode : c'.toNat = n) : c' = c := by
  unfold mapChar at hmem
  cases hspecial : special.lookup c.toNat with
  | some ns =>
    rw [hspecial] at hmem
    obtain ⟨k, hk, rfl⟩ := List.mem_map.1 hmem
    obtain rfl := eq_of_toNat_ofNat hn hcode
    obtain ⟨before, after, rfl, -⟩ := List.lookup_eq_some_iff.1 hspecial
    exact absurd hk (h.1 (c.toNat, ns) (by simp))
  | none =>
    rw [hspecial, List.mem_singleton] at hmem
    cases hrange : ranges.findSome? (·.map? c.toNat) with
    | none => rw [hmem, hrange, Option.map_none, Option.getD_none]
    | some k =>
      rw [hrange, Option.map_some, Option.getD_some] at hmem
      obtain rfl := eq_of_toNat_ofNat hn (hmem ▸ hcode)
      obtain ⟨r, hr, hmap⟩ := List.exists_of_findSome?_eq_some hrange
      have hout := h.2 r hr
      simp only [CaseRange.map?, Option.ite_none_right_eq_some, Option.some.injEq,
        Bool.and_eq_true, decide_eq_true_eq] at hmap
      omega

/-- In upper case there is no new character with a code point to which no character is mapped. -/
theorem mem_of_mem_upper {n : Nat} (hn : n ≠ 0)
    (h : Case.Avoids Case.upperSpecial Case.upperRanges n) {c : Char} {cs : List Char}
    (hmem : c ∈ upper cs) (hcode : c.toNat = n) : c ∈ cs := by
  obtain ⟨c', hc', hmem⟩ := List.mem_flatMap.1 hmem
  rwa [Case.eq_of_mem_mapChar hn h hmem hcode]

/-- The code points of brackets. -/
def markCodes : List Nat := [0x28, 0x29, 0x7B, 0x7D]

theorem mem_markCodes {c : Char} (h : mark? c ≠ none) : c.toNat ∈ markCodes := by
  unfold mark? at h
  split at h
  iterate 4 decide
  exact absurd rfl h

theorem mark?_of_mem_upper {cs : List Char} (h : ∀ c ∈ cs, mark? c = none) :
    ∀ c ∈ upper cs, mark? c = none := by
  have htable : ∀ n ∈ markCodes,
      n ≠ 0 ∧ Case.Avoids Case.upperSpecial Case.upperRanges n := by decide +kernel
  intro c hc
  by_contra hmark
  obtain ⟨hn, havoids⟩ := htable _ (mem_markCodes hmark)
  exact hmark (h c (mem_of_mem_upper hn havoids hc rfl))

/-- A text without brackets has none in upper case either. -/
theorem isPlain_upper (h : IsPlain text) : IsPlain (String.ofList (upper text.toList)) :=
  isPlain_ofList_iff.2 (mark?_of_mem_upper (isPlain_iff.1 h))

end WireSchema.Text
