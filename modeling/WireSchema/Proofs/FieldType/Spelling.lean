import WireSchema.FieldType
import WireSchema.Proofs.Text.Search
import WireSchema.Proofs.Text.Words

/-!
# Type texts that follow the grammar

A type text is spelled as a head, an optional parameter in angle brackets, an optional array mark
and a row of pointer marks. Reading such a text under `Matching.token` gives back its parts,
whatever the parameter holds besides a closing bracket. The scalar is the one that the words of the
head name, and where they name none the parts can be told from the text.

## Main definitions

* `FieldType.angled`, `FieldType.markRow`: a parameter in brackets, and the marks of a type text.
* `Spelling`, `Spelling.text`: the parts of a type text, and the text.

## Main results

* `Scalar.named?_eq_some_iff`: the scalar of a name.
* `Matching.recognise_token_append`: the head is what stands before the marks.
* `FieldType.splitParameter_append`, `FieldType.contains_arrayMark_append`,
  `FieldType.eraseFirst_arrayMark_append`: the parts of a text behind its head.
* `Spelling.read_token_text`: reading inverts spelling.
-/

namespace WireSchema

open Text

namespace Scalar

theorem named?_eq_some_iff {text : List Char} {b : Scalar} :
    named? text = some b ↔ b.name.toList = text := by
  constructor
  · intro h
    simpa using List.find?_some h
  · rintro rfl
    cases b <;> rfl

theorem named?_eq_none_iff {text : List Char} :
    named? text = none ↔ ∀ b : Scalar, b.name.toList ≠ text := by
  rw [Option.eq_none_iff_forall_ne_some]
  exact forall_congr' fun b => not_congr named?_eq_some_iff

end Scalar

/-! ### The parts of a text -/

namespace FieldType

/-- The characters that a type text is taken apart at. -/
def marks : List Char := ['<', '>', '[', ']', '*']

/-- A parameter in angle brackets. -/
def angled : Option (List Char) → List Char
  | some p => '<' :: (p ++ ['>'])
  | none => []

/-- An array mark, if there is one, and a row of pointer marks. -/
def markRow (isArray : Bool) (depth : Nat) : List Char :=
  (if isArray then arrayMark else []) ++ List.replicate depth pointerMark

theorem mem_markRow {isArray : Bool} {depth : Nat} {c : Char} (h : c ∈ markRow isArray depth) :
    c = '[' ∨ c = ']' ∨ c = '*' := by
  obtain h | h := List.mem_append.1 h
  · cases isArray with
    | true => simpa [arrayMark, or_assoc] using Or.inl h
    | false => simp at h
  · exact .inr (.inr (List.eq_of_mem_replicate h))

/-- What follows the head of a type text begins with a mark, if anything follows it. -/
theorem isMark_of_mem_head? {parameter : Option (List Char)} {isArray : Bool} {depth : Nat}
    {c : Char} (h : c ∈ (angled parameter ++ markRow isArray depth).head?) :
    Matching.isMark c = true := by
  cases parameter with
  | some p =>
    obtain rfl : '<' = c := by simpa [angled] using h
    rfl
  | none =>
    cases isArray with
    | true =>
      obtain rfl : '[' = c := by simpa [angled, markRow, arrayMark] using h
      rfl
    | false =>
      obtain rfl : c = '*' := by
        have hmem : c ∈ List.replicate depth pointerMark := List.mem_of_mem_head? h
        exact List.eq_of_mem_replicate hmem
      rfl

variable {head : List Char} {parameter : Option (List Char)} {isArray : Bool} {depth : Nat}

/-- A parameter that ends at its closing bracket is cut out of a text whose head has no marks. -/
theorem splitParameter_append (hhead : ∀ c ∈ head, c ∉ marks)
    (hparameter : ∀ p ∈ parameter, p ≠ [] ∧ '>' ∉ p) :
    splitParameter (head ++ (angled parameter ++ markRow isArray depth)) =
      (parameter, head ++ markRow isArray depth) := by
  have hopener : '<' ∉ head := fun h => hhead '<' h (by decide)
  have hcloser : '>' ∉ head := fun h => hhead '>' h (by decide)
  cases parameter with
  | some p =>
    obtain ⟨hne, hclosed⟩ := hparameter p rfl
    have hcut := cutBracketed_append hopener hcloser hclosed (markRow isArray depth)
    rw [splitParameter, angled, List.cons_append, List.append_assoc, List.singleton_append, hcut]
    simp [hne]
  | none =>
    have hnone : '<' ∉ head ++ markRow isArray depth := by
      intro h
      obtain h | h := List.mem_append.1 h
      · exact hopener h
      · obtain h | h | h := mem_markRow h <;> cases h
    rw [splitParameter, angled, List.nil_append, cutBracketed_eq_none hnone]

theorem contains_arrayMark_append (hhead : ∀ c ∈ head, c ∉ marks) :
    contains arrayMark (head ++ markRow isArray depth) = isArray := by
  cases isArray with
  | true =>
    refine contains_eq_true_iff.2 ⟨head, List.replicate depth pointerMark, ?_⟩
    simp [markRow]
  | false =>
    refine contains_eq_false_of_notMem (c := '[') (by decide) fun h => ?_
    obtain h | h := List.mem_append.1 h
    · exact hhead '[' h (by decide)
    · simp [markRow, pointerMark] at h

theorem eraseFirst_arrayMark_append (hhead : ∀ c ∈ head, c ∉ marks) :
    eraseFirst arrayMark (head ++ markRow isArray depth) =
      head ++ List.replicate depth pointerMark := by
  cases isArray with
  | true =>
    have hopen : '[' ∉ head := fun h => hhead '[' h (by decide)
    have hcut : cutFirst arrayMark (head ++ markRow true depth) =
        some (head, List.replicate depth pointerMark) := by
      rw [markRow, if_pos rfl, ← List.append_assoc]
      exact cutFirst_append hopen [']'] (List.replicate depth pointerMark)
    rw [eraseFirst, hcut]
  | false =>
    rw [eraseFirst_of_not_contains (contains_arrayMark_append hhead)]
    simp [markRow]

theorem count_pointerMark_append (hhead : ∀ c ∈ head, c ∉ marks) :
    (head ++ List.replicate depth pointerMark).count pointerMark = depth := by
  have hnone : head.count pointerMark = 0 :=
    List.count_eq_zero.2 fun h => hhead pointerMark h (by decide)
  rw [List.count_append, hnone, List.count_replicate_self, Nat.zero_add]

theorem filter_pointerMark_append (hhead : ∀ c ∈ head, c ∉ marks) :
    (head ++ List.replicate depth pointerMark).filter (· != pointerMark) = head := by
  have hkeep : head.filter (· != pointerMark) = head := by
    refine List.filter_eq_self.2 fun c hc => ?_
    simpa using fun h : c = pointerMark => hhead c hc (h ▸ by decide)
  rw [List.filter_append, hkeep, List.filter_replicate_of_neg (by simp), List.append_nil]

/-- What is read behind the recognition of a scalar that leaves a head without marks. -/
theorem read_of_recognise {matching : Matching} {raw : String} {scalar : Option Scalar}
    (hhead : ∀ c ∈ head, c ∉ marks) (hparameter : ∀ p ∈ parameter, p ≠ [] ∧ '>' ∉ p)
    (h : matching.recognise raw.toList =
      (scalar, head ++ (angled parameter ++ markRow isArray depth))) :
    read matching raw = {
      written := raw
      scalar
      parameter := parameter.map String.ofList
      isArray
      depth
      stem := String.ofList head } := by
  simp only [read, h, splitParameter_append hhead hparameter, contains_arrayMark_append hhead,
    eraseFirst_arrayMark_append hhead, count_pointerMark_append hhead,
    filter_pointerMark_append hhead]

end FieldType

/-- The head of a type text is what stands before its marks. It is removed if it names a
scalar. -/
theorem Matching.recognise_token_append {head : List Char} (hhead : ∀ c ∈ head, c ∉ FieldType.marks)
    (parameter : Option (List Char)) (isArray : Bool) (depth : Nat) :
    token.recognise (head ++ (FieldType.angled parameter ++ FieldType.markRow isArray depth)) =
      (Scalar.named? (normalize head),
        (if (Scalar.named? (normalize head)).isSome then [] else head) ++
          (FieldType.angled parameter ++ FieldType.markRow isArray depth)) := by
  have hplain : ∀ c ∈ head, (!isMark c) = true := fun c hc => by
    have hnot := hhead c hc
    simp only [FieldType.marks, List.mem_cons, not_or] at hnot
    simp [isMark, hnot]
  have hmark := @FieldType.isMark_of_mem_head? parameter isArray depth
  generalize FieldType.angled parameter ++ FieldType.markRow isArray depth = rest at hmark ⊢
  have hstop : rest.takeWhile (!isMark ·) = [] ∧ rest.dropWhile (!isMark ·) = rest := by
    cases rest with
    | nil => exact ⟨rfl, rfl⟩
    | cons c rest => simp [hmark rfl]
  rw [recognise, tokenMatch, List.takeWhile_append_of_pos hplain,
    List.dropWhile_append_of_pos hplain,
    hstop.1, hstop.2, List.append_nil]
  cases Scalar.named? (normalize head) <;> rfl

/-! ### Spellings -/

/-- The parts of a type text that follows the grammar. -/
structure Spelling where
  head : String
  parameter : Option String := none
  isArray : Bool := false
  depth : Nat := 0
  head_ne : head ≠ ""
  head_plain : ∀ c ∈ head.toList, c ∉ FieldType.marks
  head_first : ∀ c ∈ head.toList.head?, isBlank c = false
  head_last : ∀ c ∈ head.toList.getLast?, isBlank c = false
  parameter_closed : ∀ p ∈ parameter, p ≠ "" ∧ '>' ∉ p.toList

namespace Spelling

variable (t : Spelling)

/-- The parameter in angle brackets, if there is one. -/
def bracketed : String :=
  match t.parameter with
  | some p => "<" ++ p ++ ">"
  | none => ""

/-- The type text. -/
def text : String :=
  t.head ++ t.bracketed ++ (if t.isArray then "[]" else "") ++ FieldType.stars t.depth

/-- Do the words of the head name a scalar? -/
def Names (b : Scalar) : Prop :=
  b.name.toList = normalize t.head.toList

theorem toList_text : t.text.toList =
    t.head.toList ++
      (FieldType.angled (t.parameter.map String.toList) ++
        FieldType.markRow t.isArray t.depth) := by
  have hbracketed : t.bracketed.toList = FieldType.angled (t.parameter.map String.toList) := by
    unfold bracketed
    cases t.parameter <;> simp [FieldType.angled]
  have harray : (if t.isArray then "[]" else "").toList =
      if t.isArray then FieldType.arrayMark else [] := by
    cases t.isArray <;> rfl
  simp [text, FieldType.stars, FieldType.markRow, hbracketed, harray]

/-- What is read from the text of a spelling. The head is left out of the stem where it names a
scalar. -/
theorem read_text : FieldType.read .token t.text = {
    written := t.text
    scalar := Scalar.named? (normalize t.head.toList)
    parameter := t.parameter
    isArray := t.isArray
    depth := t.depth
    stem := if (Scalar.named? (normalize t.head.toList)).isSome then "" else t.head } := by
  have hparameter : ∀ p ∈ t.parameter.map String.toList, p ≠ [] ∧ '>' ∉ p := by
    intro p hp
    obtain ⟨q, hq, rfl⟩ := Option.map_eq_some_iff.1 hp
    simpa using t.parameter_closed q hq
  have hleft : ∀ c ∈ (if (Scalar.named? (normalize t.head.toList)).isSome then []
      else t.head.toList), c ∉ FieldType.marks := by
    split_ifs
    · simp
    · exact t.head_plain
  have hmatch := Matching.recognise_token_append t.head_plain (t.parameter.map String.toList)
    t.isArray t.depth
  rw [← toList_text] at hmatch
  rw [FieldType.read_of_recognise hleft hparameter hmatch]
  cases Scalar.named? (normalize t.head.toList) <;> simp

theorem isBuiltin_read : (FieldType.read .token t.text).isBuiltin =
    (Scalar.named? (normalize t.head.toList)).isSome := by
  rw [read_text]
  rfl

theorem not_isBuiltin (h : ∀ b, ¬ t.Names b) :
    (FieldType.read .token t.text).isBuiltin = false := by
  rw [isBuiltin_read, Scalar.named?_eq_none_iff.2 h]
  rfl

/-- The base name of a spelling whose head names no scalar. -/
theorem base_read_of_not_names (h : ∀ b, ¬ t.Names b) :
    (FieldType.read .token t.text).base = t.head ++ t.bracketed := by
  have hnone := Scalar.named?_eq_none_iff.2 h
  rw [read_text, hnone]
  unfold FieldType.base bracketed
  cases t.parameter with
  | some p => simp [String.append_assoc]
  | none => simp [trim_eq_self t.head_first t.head_last]

theorem base_read_of_names {b : Scalar} (h : t.Names b) :
    (FieldType.read .token t.text).base = if t.parameter.isSome then t.bracketed else b.name := by
  have hsome := Scalar.named?_eq_some_iff.2 h
  rw [read_text, hsome]
  unfold FieldType.base bracketed
  cases t.parameter with
  | some p => simp
  | none => rfl

variable {t} in
/-- The parts of a spelling whose head names no scalar can be told from its text. -/
theorem eq_of_text_eq (h : ∀ b, ¬ t.Names b) {t' : Spelling} (htext : t'.text = t.text) :
    t' = t := by
  have hread : FieldType.read .token t'.text = FieldType.read .token t.text := by rw [htext]
  have hnames : ∀ b, ¬ t'.Names b := by
    have hbuiltin : (FieldType.read .token t'.text).isBuiltin = false := by
      rw [hread, t.not_isBuiltin h]
    rw [isBuiltin_read, Option.isSome_eq_false_iff, Option.isNone_iff_eq_none] at hbuiltin
    exact Scalar.named?_eq_none_iff.1 hbuiltin
  have hbase : t'.head ++ t'.bracketed = t.head ++ t.bracketed := by
    rw [← t.base_read_of_not_names h, ← t'.base_read_of_not_names hnames, hread]
  rw [read_text, read_text] at hread
  obtain ⟨-, -, hparameter, harray, hdepth, -⟩ := FieldType.mk.inj hread
  have hbracketed : t'.bracketed = t.bracketed := by rw [bracketed, hparameter, bracketed]
  have hhead : t'.head = t.head := by
    rw [hbracketed] at hbase
    have hchars := congrArg String.toList hbase
    rw [String.toList_append, String.toList_append] at hchars
    exact String.toList_injective (List.append_cancel_right hchars)
  cases t
  cases t'
  simp_all

/-- **Reading inverts spelling.** Under `Matching.token` the parts of a type text are read back from
it. A head that names no scalar stays, with the parameter behind it; a head that names one is
replaced by the name of the scalar, or by nothing before a parameter. Where the head names no
scalar, no other spelling has the same text. -/
theorem read_token_text :
    (FieldType.read .token t.text).isArray = t.isArray ∧
    (FieldType.read .token t.text).depth = t.depth ∧
    (FieldType.read .token t.text).parameter = t.parameter ∧
    (FieldType.read .token t.text).disposable = (t.isArray || decide (0 < t.depth)) ∧
    (FieldType.read .token t.text).reference =
      (FieldType.read .token t.text).base ++ FieldType.stars t.depth ∧
    ((∀ b, ¬ t.Names b) →
      (FieldType.read .token t.text).isBuiltin = false ∧
      (FieldType.read .token t.text).base = t.head ++ t.bracketed) ∧
    (∀ b, t.Names b →
      (FieldType.read .token t.text).isBuiltin = true ∧
      (FieldType.read .token t.text).base =
        if t.parameter.isSome then t.bracketed else b.name) ∧
    ((∀ b, ¬ t.Names b) → ∀ t' : Spelling, t'.text = t.text → t' = t) := by
  refine ⟨?_, ?_, ?_, ?_, ?_, fun h => ⟨t.not_isBuiltin h, t.base_read_of_not_names h⟩,
    fun b h => ⟨?_, t.base_read_of_names h⟩, fun h t' htext => eq_of_text_eq h htext⟩
  · rw [read_text]
  · rw [read_text]
  · rw [read_text]
  · rw [read_text]
    rfl
  · rw [FieldType.reference, read_text]
  · rw [isBuiltin_read, Scalar.named?_eq_some_iff.2 h]
    rfl

/-- An array of pointers, whose parameter holds marks of its own. -/
def mapArray : Spelling where
  head := "Map"
  parameter := some "K*, V[]<"
  isArray := true
  depth := 2
  head_ne := by decide
  head_plain := by simp [FieldType.marks]
  head_first := by simp [isBlank]
  head_last := by simp [isBlank]
  parameter_closed := by simp

/-- A pointer to a scalar whose name is written with two spaces. -/
def unsignedPointer : Spelling where
  head := "unsigned  int"
  depth := 1
  head_ne := by decide
  head_plain := by simp [FieldType.marks]
  head_first := by simp [isBlank]
  head_last := by simp [isBlank]
  parameter_closed := by simp

/-- The marks inside the parameter are not counted, and the spaces inside the name do not matter. -/
theorem read_token_text_mapArray :
    (∀ b, ¬ mapArray.Names b) ∧ unsignedPointer.Names .unsignedInt ∧
    mapArray.text = "Map<K*, V[]<>[]**" ∧ unsignedPointer.text = "unsigned  int*" ∧
    (FieldType.read .token "Map<K*, V[]<>[]**").depth = 2 ∧
    (FieldType.read .token "Map<K*, V[]<>[]**").base = "Map<K*, V[]<>" ∧
    (∀ t : Spelling, t.text = "Map<K*, V[]<>[]**" → t = mapArray) ∧
    (FieldType.read .token "unsigned  int*").base = "unsigned int" := by
  have hmap : ∀ b, ¬ mapArray.Names b := by
    intro b
    rw [Names]
    cases b <;> decide
  have hunsigned : unsignedPointer.Names .unsignedInt := by
    rw [Names]
    decide
  have hmapText : mapArray.text = "Map<K*, V[]<>[]**" := by decide
  have hunsignedText : unsignedPointer.text = "unsigned  int*" := by decide
  obtain ⟨-, hdepth, -, -, -, hbase, -, hunique⟩ := read_token_text mapArray
  obtain ⟨-, -, -, -, -, -, hscalar, -⟩ := read_token_text unsignedPointer
  rw [hmapText] at hdepth hbase hunique
  rw [hunsignedText] at hscalar
  exact ⟨hmap, hunsigned, hmapText, hunsignedText, hdepth, (hbase hmap).2, hunique hmap,
    (hscalar _ hunsigned).2⟩

end Spelling

end WireSchema
