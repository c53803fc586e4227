import WireSchema.Module.Field
import WireSchema.Module.Standard
import WireSchema.Proofs.FieldType.Characters
import WireSchema.Proofs.FieldType.Matching

/-!
# Type texts of scalars

The name of a scalar may be written with any blanks between and around its words, and an array mark
and pointer marks may follow it. Such a text is read as the scalar under both matchings, and the
types that are emitted for it are made of that scalar. This holds although `Matching.substring`
recognises the scalar of the last word only, `int` in `unsigned int`: the emitted types are taken
from the written text.

## Main definitions

* `Matching.recorded`: the scalar that is recorded for the text of a scalar.
* `FieldType.markedText`: a text with an array mark and pointer marks behind it.
* `Module.scalarTerm`: the Rust type of a scalar with an array mark and pointer marks.

## Main results

* `Matching.recognise_of_words`: what is recognised in the text of a scalar.
* `FieldType.scalarSpelling_of_words`: the scalar that was written.
* `FieldType.scalar_kept`: a scalar is kept by both matchings in both languages.
-/

namespace WireSchema

open Text

/-- The scalar that is recorded for the text of a scalar. -/
def Matching.recorded : Matching → Scalar → Scalar
  | substring, b => b.signed
  | token, b => b

/-- The type of a scalar with an array mark and pointer marks. -/
def Module.scalarTerm (b : Scalar) (isArray : Bool) (depth : Nat) : TypeTerm :=
  TypeTerm.boxes (if isArray then .list (.leaf (scalarType b)) else .leaf (scalarType b)) depth

namespace FieldType

/-- A text with an array mark, if there is one, and pointer marks behind it. -/
def markedText (head : String) (isArray : Bool) (depth : Nat) : String :=
  head ++ (if isArray then "[]" else "") ++ stars depth

theorem toList_markedText (head : String) (isArray : Bool) (depth : Nat) :
    (markedText head isArray depth).toList = head.toList ++ markRow isArray depth := by
  cases isArray <;> simp [markedText, markRow, stars, arrayMark]

theorem stars_add (m n : Nat) : stars (m + n) = stars m ++ stars n := by
  rw [stars, ← List.replicate_append_replicate, String.ofList_append]
  rfl

end FieldType

/-- The member of a scalar is a pointer with one more level for an array. -/
theorem Header.memberType_of_builtin {t : FieldType} (h : t.kind = .builtin) :
    memberType t =
      t.scalarSpelling ++ FieldType.stars ((if t.isArray then 1 else 0) + t.depth) := by
  rw [memberType, h, FieldType.stars_add, ← String.append_assoc]
  cases t.isArray <;> rfl

/-- The types of a field whose spelling names a scalar. -/
theorem Module.fieldTypes_of_builtin {g : Grammar} {f : PlannedField} {b : Scalar}
    (hkind : f.kind = .builtin) (h : f.type.scalarSpelling = b.name) :
    fieldTypes g f =
      .ok (.optional (scalarTerm b f.type.isArray f.type.depth),
        scalarTerm b f.type.isArray f.type.depth) := by
  have hnamed : scalarNamed? f.type.scalarSpelling = some (scalarType b) := by
    rw [scalarNamed?, h, Scalar.named?_eq_some_iff.2 rfl, Option.map_some]
  have hscalar : builtinType f = .ok (scalarType b) := by
    rw [builtinType, hnamed]
  rw [fieldTypes, hkind, hscalar]
  rfl

/-! ### The words of a scalar -/

section Words

variable {b : Scalar} {head : List Char}

theorem Scalar.normalize_name (b : Scalar) : normalize b.name.toList = b.name.toList := by
  cases b <;> decide

/-- The words of a scalar make its name. -/
theorem Scalar.normalize_of_words (h : words head = words b.name.toList) :
    normalize head = b.name.toList := by
  rw [Text.normalize, h]
  exact b.normalize_name

theorem Scalar.notMem_marks (b : Scalar) : ∀ c ∈ b.name.toList, c ∉ FieldType.marks := by
  cases b <;> simp [Scalar.name, FieldType.marks]

theorem FieldType.isBlank_of_mem_marks {c : Char} (h : c ∈ marks) : isBlank c = false := by
  revert c
  simp [marks, isBlank]

/-- A text whose words are those of a scalar has no marks. -/
theorem Scalar.notMem_marks_of_words (h : words head = words b.name.toList) :
    ∀ c ∈ head, c ∉ FieldType.marks := by
  intro c hc hmark
  have hname := mem_normalize (FieldType.isBlank_of_mem_marks hmark) hc
  rw [normalize_of_words h] at hname
  exact b.notMem_marks c hname hmark

theorem Scalar.isWord_of_signed {s : Scalar} (h : s.signed = s) : IsWord s.name.toList := by
  revert h
  cases s <;> simp [signed, IsWord, name, isBlank]

/-- In the words of a scalar no scalar of one word occurs but the one that the last word names. -/
theorem Scalar.eq_signed_of_infix {s : Scalar} (hs : s.signed = s) {w : List Char}
    (hw : w ∈ words b.name.toList) (h : s.name.toList <:+: w) : s = b.signed := by
  have hall : ∀ b ∈ all, ∀ s ∈ all, s.signed = s → ∀ w ∈ words b.name.toList,
      contains s.name.toList w = true → s = b.signed := by
    decide +kernel
  exact hall b b.mem_all s s.mem_all hs w hw (contains_eq_true_iff.2 h)

end Words

/-! ### Reading -/

section Reading

variable {b : Scalar} {head : List Char} (h : words head = words b.name.toList) (isArray : Bool)
  (depth : Nat)

include h

/-- The scalar that is found anywhere is the one that the last word names. -/
theorem Matching.substringMatch_of_words :
    substringMatch (head ++ FieldType.markRow isArray depth) =
      (some b.signed,
        eraseFirst b.signed.name.toList head ++ FieldType.markRow isArray depth) := by
  have hlast : contains b.signed.name.toList head = true :=
    contains_eq_true_iff.2 (infix_of_mem_words (h ▸ b.signed_name_mem_words))
  obtain ⟨s, hs, hsigned, heq⟩ | ⟨hnone, -⟩ :=
    substringMatch_cases (head ++ FieldType.markRow isArray depth)
  · have hword := Scalar.isWord_of_signed hsigned
    have hplain : ∀ c ∈ s.name.toList, c ∉ FieldType.markRow isArray depth := by
      intro c hc hrow
      refine s.notMem_marks c hc ?_
      obtain rfl | rfl | rfl := FieldType.mem_markRow hrow <;> decide
    have hhead := infix_of_infix_append hword.1 hplain (contains_eq_true_iff.1 hs)
    obtain ⟨w, hw, hsw⟩ := exists_word_of_infix hword hhead
    obtain rfl := Scalar.eq_signed_of_infix hsigned (h ▸ hw) hsw
    rw [heq, eraseFirst_append_of_contains hword.1 hlast]
  · have hcontains := contains_of_infix hlast
      (List.prefix_append head (FieldType.markRow isArray depth)).isInfix
    rw [hnone] at hcontains
    exact absurd hcontains Bool.false_ne_true

/-- What is recognised in the text of a scalar. What is left of its head has no marks. -/
theorem Matching.recognise_of_words (matching : Matching) :
    ∃ rest, (∀ c ∈ rest, c ∉ FieldType.marks) ∧
      matching.recognise (head ++ FieldType.markRow isArray depth) =
        (some (matching.recorded b), rest ++ FieldType.markRow isArray depth) := by
  have hhead := Scalar.notMem_marks_of_words h
  cases matching with
  | substring =>
    exact ⟨eraseFirst b.signed.name.toList head,
      fun c hc => hhead c (eraseFirst_subset _ _ hc), substringMatch_of_words h isArray depth⟩
  | token =>
    have hnamed : Scalar.named? (normalize head) = some b :=
      Scalar.named?_eq_some_iff.2 (Scalar.normalize_of_words h).symm
    have hmatch := recognise_token_append hhead none isArray depth
    rw [hnamed] at hmatch
    exact ⟨[], by simp, hmatch⟩

end Reading

namespace FieldType

section Reading

variable {b : Scalar} {head : String} (h : words head.toList = words b.name.toList)
  (isArray : Bool) (depth : Nat) (matching : Matching)

include h

/-- What is read in the text of a scalar. Only the stem is left open. -/
theorem read_of_words :
    ∃ stem, read matching (markedText head isArray depth) = {
      written := markedText head isArray depth
      scalar := some (matching.recorded b)
      parameter := none
      isArray
      depth
      stem } := by
  obtain ⟨rest, hrest, hmatch⟩ := Matching.recognise_of_words h isArray depth matching
  rw [← toList_markedText] at hmatch
  have hnone : ∀ p ∈ (none : Option (List Char)), p ≠ [] ∧ '>' ∉ p := nofun
  exact ⟨String.ofList rest, read_of_recognise hrest hnone hmatch⟩

/-- The scalar that was written is spelled from the whole text. -/
theorem scalarSpelling_of_words :
    (read matching (markedText head isArray depth)).scalarSpelling = b.name := by
  have hhead := Scalar.notMem_marks_of_words h
  obtain ⟨stem, hread⟩ := read_of_words h isArray depth matching
  rw [hread, scalarSpelling, toList_markedText, eraseFirst_arrayMark_append hhead,
    filter_pointerMark_append hhead, Scalar.normalize_of_words h, String.ofList_toList]

end Reading

/-- **The text of a scalar keeps its scalar.** Let the words of a text be those of a scalar `b`,
with an array mark and pointer marks behind them. Under both matchings it is read as a scalar with
that array mark and that number of pointers, and the scalar that is spelled from it is `b`, although
what `Matching.substring` records is the scalar of the last word of `b`. The C++ member is `b` with
a star for each pointer mark and one more for an array. The Rust value is the type of `b`, in a list
for an array, in one box for each pointer mark, and its field is optional. -/
theorem scalar_kept {b : Scalar} {head : String} (h : words head.toList = words b.name.toList)
    (isArray : Bool) (depth : Nat) (matching : Matching) :
    let t := read matching (markedText head isArray depth)
    (t.isBuiltin = true ∧ t.kind = .builtin ∧ t.isArray = isArray ∧ t.depth = depth) ∧
      t.base = (matching.recorded b).name ∧ t.scalarSpelling = b.name ∧
      Header.memberType t = b.name ++ stars ((if isArray then 1 else 0) + depth) ∧
      ∀ g name index,
        Module.fieldTypes g (.make matching name index (markedText head isArray depth)) =
          .ok (.optional (Module.scalarTerm b isArray depth),
            Module.scalarTerm b isArray depth) := by
  have hspelling := scalarSpelling_of_words h isArray depth matching
  obtain ⟨stem, hread⟩ := read_of_words h isArray depth matching
  rw [hread] at hspelling ⊢
  refine ⟨⟨rfl, rfl, rfl, rfl⟩, rfl, hspelling, ?_, fun g name index => ?_⟩
  · rw [Header.memberType_of_builtin rfl, hspelling]
  · rw [PlannedField.make, hread]
    exact Module.fieldTypes_of_builtin rfl hspelling

end FieldType

/-- A text for `unsigned int` with a no-break space in front, an em space and a tab in the middle
and a line break behind, then an array mark and two pointer marks. -/
theorem FieldType.scalar_kept_unsignedInt :
    words "\u00a0unsigned\u2003\tint\n".toList = words Scalar.unsignedInt.name.toList ∧
      Header.memberType (read .substring "\u00a0unsigned\u2003\tint\n[]**") = "unsigned int***" ∧
      (read .substring "\u00a0unsigned\u2003\tint\n[]**").base = "int" ∧
      Module.fieldTypes Module.standardGrammar
          (.make .substring "aim" 0 "\u00a0unsigned\u2003\tint\n[]**") =
        .ok (.optional (.boxed (.boxed (.list (.leaf [.word "u32"])))),
          .boxed (.boxed (.list (.leaf [.word "u32"])))) := by
  have hwords : words "\u00a0unsigned\u2003\tint\n".toList =
      words Scalar.unsignedInt.name.toList := by
    decide
  obtain ⟨-, hbase, -, hmember, htypes⟩ := scalar_kept hwords true 2 .substring
  exact ⟨hwords, hmember, hbase, htypes _ "aim" 0⟩

end WireSchema
