import WireSchema.Proofs.FieldType.ScalarTexts

/-!
# The Rust types of fields that were read as scalars

The type of such a field is looked up twice: by the whole text without its marks, and by the base
name. The text of a field with a parameter holds an opening angle bracket, which no name of a scalar
does, and both look-ups fail. Without a parameter the base name is the name of the scalar that was
recognised, so the second one succeeds. Where the scalar stands before all marks, the text without
its marks begins with its name; no scalar's name begins with another one, so the first look-up finds
that scalar or none.

## Main results

* `Scalar.eq_of_name_isPrefix`: no scalar's name begins with another one.
* `FieldType.opener_mem_of_parameter`: a text with a parameter holds an opening bracket.
* `FieldType.eq_of_scalarSpelling_token`: the spelling of a text before whose marks a scalar stands.
* `Module.builtinType_of_parameter`, `Module.builtinType_of_scalar`: the outcome of the look-ups.
* `Module.builtinType_outcome`: when there is a type, and which.
-/

namespace WireSchema

open Text

/-- No scalar's name begins with the name of another one. -/
theorem Scalar.eq_of_name_isPrefix {b c : Scalar} (h : b.name.toList <+: c.name.toList) :
    b = c := by
  have hall : ∀ b ∈ all, ∀ c ∈ all, b.name.toList.isPrefixOf c.name.toList = true → b = c := by
    decide +kernel
  exact hall b b.mem_all c c.mem_all (List.isPrefixOf_iff_prefix.2 h)

/-! ### Spellings -/

namespace FieldType

variable {matching : Matching} {raw : String} {b c : Scalar}

theorem toList_scalarSpelling (t : FieldType) :
    t.scalarSpelling.toList =
      normalize ((eraseFirst arrayMark t.written.toList).filter (· != pointerMark)) :=
  String.toList_ofList

/-- Only the array mark and the pointer marks are left out of the spelling of a text. -/
theorem mem_scalarSpelling {t : FieldType} {d : Char} (hmem : d ∈ t.written.toList)
    (hblank : isBlank d = false) (harray : d ∉ arrayMark) (hpointer : d ≠ pointerMark) :
    d ∈ t.scalarSpelling.toList := by
  rw [toList_scalarSpelling]
  refine mem_normalize hblank (List.mem_filter.2 ⟨?_, by simpa using hpointer⟩)
  rwa [← List.count_pos_iff, count_eraseFirst harray, List.count_pos_iff]

/-- A text with a parameter holds the bracket that opens it. -/
theorem opener_mem_of_parameter (h : (read matching raw).parameter.isSome = true) :
    '<' ∈ raw.toList := by
  by_contra hnone
  have hrest : '<' ∉ (matching.recognise raw.toList).2 := fun hmem =>
    hnone (matching.recognise_subset raw.toList hmem)
  have hsplit : (splitParameter (matching.recognise raw.toList).2).1 = none := by
    rw [splitParameter, cutBracketed_eq_none hrest]
  have hread : (read matching raw).parameter =
      (splitParameter (matching.recognise raw.toList).2).1.map String.ofList := rfl
  rw [hread, hsplit] at h
  exact Bool.false_ne_true h

/-- A text with a parameter is not spelled like a scalar. -/
theorem scalarSpelling_ne_of_parameter (h : (read matching raw).parameter.isSome = true) :
    (read matching raw).scalarSpelling ≠ b.name := by
  intro heq
  have hopener : '<' ∈ (read matching raw).scalarSpelling.toList :=
    mem_scalarSpelling (opener_mem_of_parameter h) (by decide) (by decide) (by decide)
  rw [heq] at hopener
  exact b.notMem_marks '<' hopener (by decide)

/-- A base name with a parameter is no name of a scalar. -/
theorem base_ne_of_parameter {t : FieldType} (h : t.parameter.isSome = true) : t.base ≠ b.name := by
  intro heq
  obtain ⟨p, hp⟩ := Option.isSome_iff_exists.1 h
  have hopener : '<' ∈ t.base.toList := by simp [base, hp]
  rw [heq] at hopener
  exact b.notMem_marks '<' hopener (by decide)

/-- What stands before the marks of a text also stands before the marks of its spelling. -/
theorem normalize_head_isPrefix (t : FieldType) :
    normalize (t.written.toList.takeWhile (!Matching.isMark ·)) <+: t.scalarSpelling.toList := by
  set head := t.written.toList.takeWhile (!Matching.isMark ·) with hhead
  have hplain : ∀ d ∈ head, Matching.isMark d = false := fun d hd => by
    simpa using List.mem_takeWhile_imp hd
  have hopen : '[' ∉ head := fun hmem => absurd (hplain _ hmem) (by decide)
  have hstar : head.filter (· != pointerMark) = head := List.filter_eq_self.2 fun d hd =>
    bne_iff_ne.2 fun heq => absurd (hplain d hd) (by rw [heq]; decide)
  have hsplit : t.written.toList = head ++ t.written.toList.dropWhile (!Matching.isMark ·) :=
    List.takeWhile_append_dropWhile.symm
  rw [toList_scalarSpelling, hsplit, arrayMark, eraseFirst_append_of_notMem hopen,
    List.filter_append, hstar]
  exact normalize_isPrefix_append _ _

/-- The spelling of a text before whose marks a scalar stands begins with the name of the scalar. -/
theorem name_isPrefix_scalarSpelling (h : (read .token raw).scalar = some b) :
    b.name.toList <+: (read .token raw).scalarSpelling.toList := by
  obtain ⟨s, hname, heq⟩ | heq := Matching.tokenMatch_cases raw.toList
  · obtain rfl : s = b := Option.some.inj ((congrArg Prod.fst heq).symm.trans h)
    rw [hname]
    exact normalize_head_isPrefix (read .token raw)
  · have hnone : (read .token raw).scalar = none := congrArg Prod.fst heq
    rw [hnone] at h
    cases h

/-- A text before whose marks a scalar stands is spelled like that scalar or like none. -/
theorem eq_of_scalarSpelling_token (h : (read .token raw).scalar = some b)
    (hspelling : (read .token raw).scalarSpelling = c.name) : c = b := by
  have hbegin := name_isPrefix_scalarSpelling h
  rw [hspelling] at hbegin
  exact (Scalar.eq_of_name_isPrefix hbegin).symm

end FieldType

/-! ### Look-ups -/

namespace Module

variable {f : PlannedField} {b : Scalar}

theorem scalarNamed?_eq_some_iff {name : String} {ts : Tokens} :
    scalarNamed? name = some ts ↔ ∃ b : Scalar, b.name = name ∧ scalarType b = ts := by
  rw [scalarNamed?, Option.map_eq_some_iff]
  simp only [Scalar.named?_eq_some_iff, String.toList_inj]

theorem scalarNamed?_name (b : Scalar) : scalarNamed? b.name = some (scalarType b) :=
  scalarNamed?_eq_some_iff.2 ⟨b, rfl, rfl⟩

theorem scalarNamed?_eq_none {name : String} (h : ∀ b : Scalar, name ≠ b.name) :
    scalarNamed? name = none := by
  refine Option.eq_none_iff_forall_ne_some.2 fun ts hts => ?_
  obtain ⟨b, hb, -⟩ := scalarNamed?_eq_some_iff.1 hts
  exact h b hb.symm

/-- Neither look-up finds a scalar for a text with a parameter. -/
theorem builtinType_of_parameter (matching : Matching) (name : String) (index : Nat) {raw : String}
    (h : (FieldType.read matching raw).parameter.isSome = true) :
    builtinType (.make matching name index raw) =
      .error (.fieldType name raw (.notScalar (FieldType.read matching raw).base)) := by
  have hspelling : scalarNamed? (FieldType.read matching raw).scalarSpelling = none :=
    scalarNamed?_eq_none fun _ => FieldType.scalarSpelling_ne_of_parameter h
  have hbase : scalarNamed? (FieldType.read matching raw).base = none :=
    scalarNamed?_eq_none fun _ => FieldType.base_ne_of_parameter h
  simp only [builtinType, PlannedField.make, hspelling, hbase]
  rfl

/-- Without a parameter the recognised scalar is found, unless the written one is found first. -/
theorem builtinType_of_scalar (hscalar : f.type.scalar = some b) (hnone : f.type.parameter = none) :
    f.type.base = b.name ∧
      builtinType f = .ok ((scalarNamed? f.type.scalarSpelling).getD (scalarType b)) := by
  have hbase : f.type.base = b.name := by rw [FieldType.base, hnone, hscalar]
  refine ⟨hbase, ?_⟩
  rw [builtinType, hbase, scalarNamed?_name]
  cases scalarNamed? f.type.scalarSpelling <;> rfl

/-- The types of a field that was read as a scalar fail where its scalar fails. -/
theorem fieldTypes_eq_error_iff (hkind : f.kind = .builtin) {g : Grammar} {e : BuildError} :
    fieldTypes g f = .error e ↔ builtinType f = .error e := by
  rw [fieldTypes, hkind]
  cases builtinType f with
  | error e' =>
    change (.error e' : Except BuildError (TypeTerm × TypeTerm)) = .error e ↔ _
    rw [Except.error.injEq, Except.error.injEq]
  | ok ts => constructor <;> intro h <;> cases h

/-- **The type of a field that was read as a scalar.** It fails exactly if the text has a
parameter, with an error that names the field, its text and its base name, and so do the types of
the whole field. Otherwise it is the type of a scalar: of the one that the text without its marks
names, or else of the one that was recognised. Where the scalar was recognised before all marks, it
is always the type that the base name stands for, and the text without its marks names no other. -/
theorem builtinType_outcome (matching : Matching) (name : String) (index : Nat) (raw : String)
    (h : (FieldType.read matching raw).isBuiltin = true) :
    let f := PlannedField.make matching name index raw
    (∀ e, builtinType f = .error e ↔
      f.type.parameter.isSome = true ∧ e = .fieldType name raw (.notScalar f.type.base)) ∧
    (∀ g e, fieldTypes g f = .error e ↔ builtinType f = .error e) ∧
    (f.type.parameter = none → ∃ b : Scalar, builtinType f = .ok (scalarType b) ∧
      (f.type.scalarSpelling = b.name ∨
        scalarNamed? f.type.scalarSpelling = none ∧ f.type.scalar = some b)) ∧
    (matching = .token → f.type.parameter = none →
      ∃ ts, builtinType f = .ok ts ∧ scalarNamed? f.type.base = some ts ∧
        ∀ ts', scalarNamed? f.type.scalarSpelling = some ts' → ts' = ts) := by
  intro f
  obtain ⟨b, hscalar⟩ : ∃ b, f.type.scalar = some b := Option.isSome_iff_exists.1 h
  have hkind : f.kind = .builtin := if_pos h
  refine ⟨fun e => ?_, fun g e => fieldTypes_eq_error_iff hkind, fun hnone => ?_, ?_⟩
  · cases hparameter : f.type.parameter with
    | none => simp [(builtinType_of_scalar hscalar hparameter).2]
    | some p =>
      have hsome : f.type.parameter.isSome = true := by rw [hparameter]; rfl
      rw [builtinType_of_parameter matching name index hsome]
      simp [f, PlannedField.make, eq_comm]
  · obtain ⟨-, htype⟩ := builtinType_of_scalar hscalar hnone
    cases hspelling : scalarNamed? f.type.scalarSpelling with
    | none => exact ⟨b, by rw [htype, hspelling]; rfl, .inr ⟨rfl, hscalar⟩⟩
    | some ts =>
      obtain ⟨c, hc, rfl⟩ := scalarNamed?_eq_some_iff.1 hspelling
      exact ⟨c, by rw [htype, hspelling]; rfl, .inl hc.symm⟩
  · rintro rfl hnone
    obtain ⟨hbase, htype⟩ := builtinType_of_scalar hscalar hnone
    have hsame : ∀ ts, scalarNamed? f.type.scalarSpelling = some ts → ts = scalarType b := by
      intro ts hts
      obtain ⟨c, hc, rfl⟩ := scalarNamed?_eq_some_iff.1 hts
      rw [FieldType.eq_of_scalarSpelling_token hscalar hc.symm]
    refine ⟨scalarType b, ?_, by rw [hbase, scalarNamed?_name], hsame⟩
    cases hspelling : scalarNamed? f.type.scalarSpelling with
    | none => rw [htype, hspelling]; rfl
    | some ts => rw [htype, hspelling, Option.getD_some, hsame ts hspelling]

/-- A scalar with another one behind its pointer mark, which token matching takes for `int`; a
parameter of which a scalar is a part; and a scalar as the whole parameter, which leaves none. -/
theorem builtinType_outcome_malformed :
    (FieldType.read .token "int*long").isBuiltin = true ∧
    builtinType (.make .token "aim" 0 "int*long") = .ok [.word "i32"] ∧
    (FieldType.read .substring "Map<int,K>").isBuiltin = true ∧
    builtinType (.make .substring "aim" 0 "Map<int,K>") =
      .error (.fieldType "aim" "Map<int,K>" (.notScalar "Map<,K>")) ∧
    (FieldType.read .substring "List<int>").isBuiltin = true ∧
    ∃ b : Scalar, builtinType (.make .substring "aim" 0 "List<int>") = .ok (scalarType b) := by
  have hint : (FieldType.read .token "int*long").isBuiltin = true := by decide
  have hmap : (FieldType.read .substring "Map<int,K>").isBuiltin = true := by decide
  have hlist : (FieldType.read .substring "List<int>").isBuiltin = true := by decide
  obtain ⟨-, -, -, htoken⟩ := builtinType_outcome .token "aim" 0 "int*long" hint
  obtain ⟨herror, -⟩ := builtinType_outcome .substring "aim" 0 "Map<int,K>" hmap
  obtain ⟨-, -, hscalar, -⟩ := builtinType_outcome .substring "aim" 0 "List<int>" hlist
  obtain ⟨ts, htype, hbase, -⟩ := htoken rfl (by decide)
  have hword : scalarNamed? (FieldType.read .token "int*long").base = some [.word "i32"] := by
    decide
  obtain rfl : ts = [.word "i32"] := Option.some.inj (hbase.symm.trans hword)
  obtain ⟨b, hb, -⟩ := hscalar (by decide)
  exact ⟨hint, htype, hmap, (herror _).2 ⟨by decide, by decide⟩, hlist, b, hb⟩

end Module

end WireSchema
