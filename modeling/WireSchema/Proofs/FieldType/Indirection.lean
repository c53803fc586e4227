import WireSchema.Proofs.FieldType.ScalarTexts
import WireSchema.Proofs.Log

/-!
# Levels of indirection in emitted types

A type text asks for one level of indirection for each pointer mark outside its parameter, and for
one more if it has an array mark. In C++ each level is a star behind the type. In Rust each pointer
mark is a box and the array mark a list, and all but a nested value in place are optional. So the
two languages declare the same number of levels, for every text and under both matchings.

## Main definitions

* `Module.Wrapper`: the generic types that a type is wrapped in.
* `Module.TypeTerm.wrappers`, `Module.TypeTerm.core`: the wrappers of a type and the type inside.
* `FieldType.levels`, `FieldType.parameterStars`: the levels that a type text asks for, and the
  stars that its parameter holds.
* `FieldType.wrappers`: the wrappers that a type text asks for.

## Main results

* `Module.TypeTerm.tokens_eq`: the tokens of a type are read off its wrappers.
* `Header.count_memberType`: the stars of a member.
* `Module.Field.type_of_make`: the wrappers of a field.
* `FieldType.indirection_declared`: both languages declare the levels that the text asks for.
-/

namespace WireSchema

open Text

/-! ### Wrappers -/

namespace Module

/-- A generic type that an emitted type is wrapped in. -/
inductive Wrapper
  | optional
  | list
  | boxed
  deriving DecidableEq, Repr

/-- The tokens up to the opening bracket of a wrapper. -/
def Wrapper.opening : Wrapper → Tokens
  | optional => optionalType
  | list => listType
  | boxed => path ["std", "boxed", "Box"] ++ [.word "<"]

@[simp]
theorem Token.text_word (text : String) : (Token.word text).text = text := rfl

namespace TypeTerm

/-- The wrappers of a type from the outside in. -/
def wrappers : TypeTerm → List Wrapper
  | leaf _ => []
  | boxed t => .boxed :: t.wrappers
  | list t => .list :: t.wrappers
  | optional t => .optional :: t.wrappers
  | optionalList t => .optional :: .list :: t.wrappers

/-- The type inside all wrappers. -/
def core : TypeTerm → Tokens
  | leaf ts => ts
  | boxed t => t.core
  | list t => t.core
  | optional t => t.core
  | optionalList t => t.core

/-- The tokens that close the wrappers of a type. -/
def closing : TypeTerm → Tokens
  | leaf _ => []
  | boxed t => t.closing ++ [.word ">"]
  | list t => t.closing ++ [.word ">"]
  | optional t => t.closing ++ [.word ">"]
  | optionalList t => t.closing ++ [.word ">>"]

/-- The tokens of a type are those of its wrappers around the type inside. -/
theorem tokens_eq (t : TypeTerm) :
    t.tokens = t.wrappers.flatMap Wrapper.opening ++ t.core ++ t.closing := by
  induction t with
  | leaf ts => simp [tokens, wrappers, core, closing]
  | boxed t ih => simp [tokens, wrappers, core, closing, Wrapper.opening, ih]
  | list t ih => simp [tokens, wrappers, core, closing, Wrapper.opening, ih]
  | optional t ih => simp [tokens, wrappers, core, closing, Wrapper.opening, ih]
  | optionalList t ih => simp [tokens, wrappers, core, closing, Wrapper.opening, ih]

/-- Each wrapper is closed by one bracket. -/
theorem flatMap_text_closing (t : TypeTerm) :
    t.closing.flatMap (·.text.toList) = List.replicate t.wrappers.length '>' := by
  induction t with
  | leaf ts => rfl
  | boxed t ih => simp [closing, wrappers, Token.text_word, ih, List.replicate_succ']
  | list t ih => simp [closing, wrappers, Token.text_word, ih, List.replicate_succ']
  | optional t ih => simp [closing, wrappers, Token.text_word, ih, List.replicate_succ']
  | optionalList t ih => simp [closing, wrappers, Token.text_word, ih, List.replicate_succ']

@[simp]
theorem wrappers_boxes (t : TypeTerm) (n : Nat) :
    (t.boxes n).wrappers = List.replicate n .boxed ++ t.wrappers := by
  induction n with
  | zero => rfl
  | succ n ih => rw [boxes, wrappers, ih, List.replicate_succ, List.cons_append]

@[simp]
theorem core_boxes (t : TypeTerm) (n : Nat) : (t.boxes n).core = t.core := by
  induction n with
  | zero => rfl
  | succ n ih => rw [boxes, core, ih]

end TypeTerm

end Module

/-! ### Levels of a type text -/

namespace FieldType

/-- The levels of indirection that a type text asks for. -/
def levels (t : FieldType) : Nat :=
  t.depth + if t.isArray then 1 else 0

/-- The number of stars in the parameter of a type text. -/
def parameterStars (t : FieldType) : Nat :=
  (t.parameter.getD "").toList.count '*'

/-- The levels as wrappers. The items of an array are boxed, unless they are scalars: then the array
is boxed. -/
def layers (t : FieldType) : List Module.Wrapper :=
  let array := if t.isArray then [.list] else []
  let pointers := List.replicate t.depth .boxed
  if t.kind = .builtin then pointers ++ array else array ++ pointers

/-- The wrappers that a type text asks for. Only a nested value in place is always there. -/
def wrappers (t : FieldType) : List Module.Wrapper :=
  (if t.kind = .nested then [] else [.optional]) ++ t.layers

theorem length_layers (t : FieldType) : t.layers.length = t.levels := by
  unfold layers levels
  split_ifs <;> simp

theorem optional_notMem_layers (t : FieldType) : .optional ∉ t.layers := by
  unfold layers
  split_ifs <;> simp

/-- The wrappers that are not optional are the levels. -/
theorem countP_wrappers (t : FieldType) : t.wrappers.countP (· ≠ .optional) = t.levels := by
  have hlayers : t.layers.countP (· ≠ .optional) = t.layers.length := by
    refine List.countP_eq_length.2 fun w hw => ?_
    simpa using ne_of_mem_of_not_mem hw t.optional_notMem_layers
  rw [wrappers, List.countP_append, hlayers, length_layers]
  split_ifs <;> simp

theorem isArray_iff_of_kind_ne {t : FieldType} (h : t.kind ≠ .builtin) :
    t.isArray = true ↔ t.kind = .array := by
  unfold kind at h ⊢
  split_ifs at h ⊢ <;> simp_all

theorem depth_of_kind_nested {t : FieldType} (h : t.kind = .nested) : t.depth = 0 := by
  unfold kind at h
  split_ifs at h with _ _ hdepth
  omega

/-! ### Stars of a member -/

theorem count_stars (n : Nat) : (stars n).toList.count '*' = n := by
  rw [stars, String.toList_ofList]
  exact List.count_replicate_self

theorem count_scalarSpelling (t : FieldType) : t.scalarSpelling.toList.count '*' = 0 := by
  rw [scalarSpelling, String.toList_ofList, List.count_eq_zero]
  intro h
  obtain h | h := mem_of_mem_normalize h
  · cases h
  · exact absurd (List.mem_filter.1 h).2 (by decide)

theorem star_notMem_stem (matching : Matching) (raw : String) :
    '*' ∉ (read matching raw).stem.toList := by
  intro h
  simp only [read, String.toList_ofList] at h
  exact absurd (List.mem_filter.1 h).2 (by decide)

/-- The stars of a base name are those of its parameter. -/
theorem count_base {t : FieldType} (h : '*' ∉ t.stem.toList) :
    t.base.toList.count '*' = t.parameterStars := by
  have hstem : t.stem.toList.count '*' = 0 := List.count_eq_zero.2 h
  unfold base parameterStars
  split
  · rename_i p hp
    simp [hp, hstem, List.count_append]
  · rename_i s hnone hs
    rw [hnone]
    cases s <;> decide
  · rename_i hnone hs
    rw [hnone, String.toList_ofList]
    exact List.count_eq_zero.2 fun hmem => h (trim_subset _ hmem)

end FieldType

/-- The type of a member has a star for each level, and the stars of the parameter unless it is a
scalar. -/
theorem Header.count_memberType {t : FieldType} (h : '*' ∉ t.stem.toList) :
    (memberType t).toList.count '*' =
      t.levels + if t.kind = .builtin then 0 else t.parameterStars := by
  have hreference : t.reference.toList.count '*' = t.depth + t.parameterStars := by
    rw [FieldType.reference, String.toList_append, List.count_append, FieldType.count_base h,
      FieldType.count_stars, Nat.add_comm]
  have hisArray := @FieldType.isArray_iff_of_kind_ne t
  cases hkind : t.kind with
  | builtin =>
    rw [memberType_of_builtin hkind, String.toList_append, List.count_append,
      FieldType.count_scalarSpelling, FieldType.count_stars, if_pos rfl, FieldType.levels]
    omega
  | array =>
    have harray : t.isArray = true := (hisArray (by simp [hkind])).2 hkind
    simp [memberType, hkind, FieldType.levels, hreference, harray, Nat.add_right_comm]
  | nested =>
    have harray : t.isArray = false := by simpa [hkind] using hisArray
    simp [memberType, hkind, FieldType.levels, hreference, harray]
  | pointer =>
    have harray : t.isArray = false := by simpa [hkind] using hisArray
    simp [memberType, hkind, FieldType.levels, hreference, harray]

/-! ### Wrappers of a field -/

namespace Module

/-- The type that the wrappers of a field are put around. -/
def coreType (g : Grammar) (f : PlannedField) : Except BuildError Tokens :=
  match f.kind with
  | .builtin => builtinType f
  | .array => nestedType g f
  | .nested => nestedType g f
  | .pointer => nestedType g f

/-- The declared type of a field has the wrappers that its text asks for. -/
theorem fieldTypes_eq_ok {g : Grammar} {f : PlannedField} {type value : TypeTerm}
    (h : fieldTypes g f = .ok (type, value)) :
    coreType g f = .ok type.core ∧ type.wrappers = f.type.wrappers := by
  have hisArray := @FieldType.isArray_iff_of_kind_ne f.type
  have hdepth := @FieldType.depth_of_kind_nested f.type
  revert h
  unfold fieldTypes coreType FieldType.wrappers FieldType.layers PlannedField.kind
  cases hkind : f.type.kind with
  | builtin =>
    intro h
    obtain ⟨ts, hts, h⟩ := bind_eq_ok_iff.1 h
    cases h
    cases f.type.isArray <;> simp [TypeTerm.core, TypeTerm.wrappers, hts]
  | array =>
    intro h
    have harray : f.type.isArray = true := (hisArray (by simp [hkind])).2 hkind
    obtain ⟨ts, hts, h⟩ := bind_eq_ok_iff.1 h
    cases h
    simp [TypeTerm.core, TypeTerm.wrappers, hts, harray]
  | nested =>
    intro h
    have harray : f.type.isArray = false := by simpa [hkind] using hisArray
    obtain ⟨ts, hts, h⟩ := bind_eq_ok_iff.1 h
    cases h
    simp [TypeTerm.core, TypeTerm.wrappers, hts, harray, hdepth hkind]
  | pointer =>
    intro h
    have harray : f.type.isArray = false := by simpa [hkind] using hisArray
    obtain ⟨ts, hts, h⟩ := bind_eq_ok_iff.1 h
    cases h
    simp [TypeTerm.core, TypeTerm.wrappers, hts, harray]

/-- The type of a field is put around the type that its text names. -/
theorem Field.type_of_make {g : Grammar} {f : PlannedField} {field : Field}
    (h : make g f = .ok field) :
    coreType g f = .ok field.type.core ∧ field.type.wrappers = f.type.wrappers := by
  unfold make at h
  obtain ⟨ident, -, h⟩ := bind_eq_ok_iff.1 h
  obtain ⟨⟨type, value⟩, htypes, h⟩ := bind_eq_ok_iff.1 h
  cases h
  exact fieldTypes_eq_ok htypes

end Module

/-- **Both languages declare the levels of indirection that a text asks for.** The C++ member of a
type has one star for each pointer mark and one for an array mark, and besides them only the stars
in the parameter of a type that is not a scalar. Where a Rust field can be made, whatever texts its
grammar takes for types, its type is the type that the text names in exactly the wrappers that the
text asks for, so the boxes and lists among them are as many as the stars outside the parameter.
Each wrapper is written as its opening tokens and one closing bracket. -/
theorem FieldType.indirection_declared (g : Module.Grammar) (matching : Matching) (raw : String) :
    let t := read matching raw
    let inner := if t.kind = .builtin then 0 else t.parameterStars
    (Header.memberType t).toList.count '*' = t.levels + inner ∧
      ∀ name index field, Module.Field.make g (.make matching name index raw) = .ok field →
        Module.coreType g (.make matching name index raw) = .ok field.type.core ∧
        field.type.wrappers = t.wrappers ∧
        (Header.memberType t).toList.count '*' =
          field.type.wrappers.countP (· ≠ .optional) + inner ∧
        ∃ closing, field.type.tokens =
            t.wrappers.flatMap Module.Wrapper.opening ++ field.type.core ++ closing ∧
          closing.flatMap (·.text.toList) = List.replicate t.wrappers.length '>' := by
  intro t inner
  have hcount := Header.count_memberType (star_notMem_stem matching raw)
  refine ⟨hcount, fun name index field hfield => ?_⟩
  obtain ⟨hcore, hwrappers⟩ := Module.Field.type_of_make hfield
  have htokens := field.type.tokens_eq
  have hclosing := field.type.flatMap_text_closing
  have hlevels : field.type.wrappers.countP (· ≠ .optional) = t.levels := by
    rw [hwrappers]
    exact t.countP_wrappers
  rw [hwrappers] at htokens hclosing
  exact ⟨hcore, hwrappers, hlevels ▸ hcount, field.type.closing, htokens, hclosing⟩

/-- An array of pointers to pointers. -/
theorem FieldType.indirection_declared_crew :
    ∃ field, Module.Field.make Module.standardGrammar
        (.make .substring "crew" 0 "List<Foo>[]**") = .ok field ∧
      field.type.wrappers = [.optional, .list, .boxed, .boxed] ∧
      Header.memberType (read .substring "List<Foo>[]**") = "List<Foo>***" ∧
      (Header.memberType (read .substring "List<Foo>[]**")).toList.count '*' = 3 := by
  have hmake : (Module.Field.make Module.standardGrammar
      (.make .substring "crew" 0 "List<Foo>[]**")).toBool = true := by
    decide +kernel
  obtain ⟨hstars, hfields⟩ :=
    indirection_declared Module.standardGrammar .substring "List<Foo>[]**"
  cases hfield : Module.Field.make Module.standardGrammar
      (.make .substring "crew" 0 "List<Foo>[]**") with
  | error e =>
    rw [hfield] at hmake
    cases hmake
  | ok field =>
    obtain ⟨-, hwrappers, -⟩ := hfields "crew" 0 field hfield
    exact ⟨field, rfl, hwrappers.trans (by decide +kernel), by decide +kernel,
      hstars.trans (by decide +kernel)⟩

end WireSchema
