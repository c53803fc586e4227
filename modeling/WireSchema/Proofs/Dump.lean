import Mathlib.Data.List.Forall2
import WireSchema.Backend
import WireSchema.Proofs.Text.Quoted

/-!
# The debug dump determines the messages

A dump is put together from numbers, quoted texts, options, lists and records. What is written for
a value says by itself where it ends, whatever the texts in it look like: a quoted text ends at the
first quote that has no backslash, a number at the first character that is no digit, and a list and
a record at the bracket that stands where another comma could. So values of one type can be told
apart even when other text follows them, and this carries over from the parts of a value to the
whole. In the end different messages have different dumps.

## Main definitions

* `Dump.Separable`: two texts that differ are told apart whatever follows them.
* `Dump.Delimited`: a way of writing by which values are told apart whatever follows them.

## Main results

* `Dump.delimited_text`, `Dump.delimited_number`, `Dump.delimited_option`: the leaves of a dump.
* `Dump.Delimited.list`, `Dump.delimited_fields`: lists and records.
* `Message.delimited_dump`: messages.
* `Backend.dump_eq_dump_iff`: schemas have the same dump when they have the same messages.
-/

namespace WireSchema

namespace Dump

variable {α β : Type} {a b v v' name closing rest rest' : String}

/-! ### Texts that follow one another -/

/-- The text does not go on with a digit. -/
def Stops (rest : String) : Prop :=
  rest.toList.takeWhile Char.isDigit = []

theorem stops_append (h : a.toList.head?.any (!·.isDigit)) (b : String) : Stops (a ++ b) := by
  rw [Stops, String.toList_append]
  cases ha : a.toList with
  | nil => simp [ha] at h
  | cons c cs => simpa [ha] using h

/-- If the two texts differ, no texts after them make up for it, unless they go on with digits. -/
def Separable (v v' : String) : Prop :=
  ∀ ⦃rest rest' : String⦄, Stops rest → Stops rest' → v ++ rest = v' ++ rest' → v = v'

theorem Separable.append_left (h : Separable v v') (a : String) :
    Separable (a ++ v) (a ++ v') := by
  intro rest rest' hrest hrest' heq
  rw [String.append_assoc, String.append_assoc, String.append_right_inj] at heq
  rw [h hrest hrest' heq]

/-- A value can be read off what is written for it and any text after that, unless the text goes
on with digits. -/
def Delimited (write : α → String) : Prop :=
  ∀ ⦃a b : α⦄ ⦃rest rest' : String⦄, Stops rest → Stops rest' →
    write a ++ rest = write b ++ rest' → a = b

namespace Delimited

variable {write : α → String}

theorem injective (h : Delimited write) : Function.Injective write := by
  intro a b hab
  have hstops : Stops "" := rfl
  exact h hstops hstops (congrArg (· ++ "") hab)

theorem separable (h : Delimited write) (a b : α) : Separable (write a) (write b) :=
  fun _ _ hrest hrest' heq => congrArg write (h hrest hrest' heq)

theorem comp (h : Delimited write) {f : β → α} (hf : Function.Injective f) :
    Delimited fun b => write (f b) :=
  fun _ _ _ _ hrest hrest' heq => hf (h hrest hrest' heq)

end Delimited

/-! ### Leaves -/

theorem delimited_text : Delimited text := by
  intro s t rest rest' _ _ heq
  have hlist := congrArg String.toList heq
  simp only [text, String.toList_append, String.toList_ofList] at hlist
  exact String.toList_injective (Text.quote_append_inj hlist).1

/-- A number ends where no digit follows. -/
theorem takeWhile_isDigit_number (n : Nat) (h : Stops rest) :
    (toString n ++ rest).toList.takeWhile Char.isDigit = Nat.toDigits 10 n := by
  have hdigits : ∀ c ∈ Nat.toDigits 10 n, c.isDigit = true := fun c hc =>
    Nat.isDigit_of_mem_toDigits (by decide) (by decide) hc
  rw [String.toList_append, Nat.toString_eq_repr, Nat.toList_repr,
    List.takeWhile_append_of_pos hdigits, h, List.append_nil]

theorem delimited_number : Delimited fun n : Nat => toString n := by
  intro n m rest rest' hrest hrest' heq
  have hdigits : Nat.toDigits 10 n = Nat.toDigits 10 m := by
    rw [← takeWhile_isDigit_number n hrest, ← takeWhile_isDigit_number m hrest', heq]
  rw [← Nat.ofDigitChars_ten_toDigits (n := n), hdigits, Nat.ofDigitChars_ten_toDigits]

theorem delimited_option : Delimited option := by
  intro s t rest rest' _ _ heq
  have hheads := congrArg (·.toList.head?) heq
  cases s with
  | none =>
    cases t with
    | none => rfl
    | some t => simp [option] at hheads
  | some s =>
    cases t with
    | none => simp [option] at hheads
    | some t =>
      rw [option, option, String.append_assoc, String.append_assoc, String.append_assoc,
        String.append_assoc, String.append_right_inj] at heq
      have hclose (x : String) : Stops (")" ++ x) := stops_append (by decide) x
      rw [delimited_text (hclose rest) (hclose rest') heq]

/-! ### Rows of values -/

/-- The values of a row after its first one, each with a comma in front. -/
def laterText (vs : List String) : String :=
  String.join (vs.map (", " ++ ·))

theorem laterText_cons (v : String) (vs : List String) :
    laterText (v :: vs) = ", " ++ (v ++ laterText vs) := by
  rw [laterText, List.map_cons, String.join_cons, String.append_assoc]
  rfl

theorem intercalate_cons (v : String) (vs : List String) :
    ", ".intercalate (v :: vs) = v ++ laterText vs := by
  induction vs generalizing v with
  | nil => simp [laterText]
  | cons v' vs ih =>
    rw [String.intercalate_cons_cons, ih, laterText_cons, String.append_assoc]

/-- The text can end a row: it is not taken for another value, and continues no number. -/
def IsClosing (closing : String) : Prop :=
  closing.toList.head?.any fun c => c != ',' && !c.isDigit

instance (closing : String) : Decidable (IsClosing closing) :=
  inferInstanceAs (Decidable (_ = true))

theorem IsClosing.append_ne (h : IsClosing closing) : closing ++ rest ≠ ", " ++ rest' := by
  intro heq
  have hheads := congrArg (·.toList.head?) heq
  cases hclosing : closing.toList with
  | nil => simp [IsClosing, hclosing] at h
  | cons c cs =>
    have hc : c = ',' := by simpa [hclosing] using hheads
    simp [IsClosing, hclosing, hc] at h

theorem IsClosing.stops_laterText (h : IsClosing closing) (vs : List String) (rest : String) :
    Stops (laterText vs ++ (closing ++ rest)) := by
  cases vs with
  | nil =>
    refine stops_append (a := "" ++ closing) ?_ rest
    cases hclosing : closing.toList with
    | nil => simp [IsClosing, hclosing] at h
    | cons c cs => simp_all [IsClosing]
  | cons v vs =>
    rw [laterText_cons, String.append_assoc]
    exact stops_append (by decide) _

theorem laterText_append_inj (hclosing : IsClosing closing) {vs vs' : List String}
    (h : ∀ p ∈ vs.zip vs', Separable p.1 p.2)
    (heq : laterText vs ++ (closing ++ rest) = laterText vs' ++ (closing ++ rest')) :
    vs = vs' := by
  induction vs generalizing vs' with
  | nil =>
    cases vs' with
    | nil => rfl
    | cons v' vs' =>
      rw [laterText_cons, String.append_assoc] at heq
      exact absurd heq hclosing.append_ne
  | cons v vs ih =>
    rw [laterText_cons, String.append_assoc] at heq
    cases vs' with
    | nil => exact absurd heq.symm hclosing.append_ne
    | cons v' vs' =>
      rw [List.zip_cons_cons, List.forall_mem_cons] at h
      rw [laterText_cons, String.append_assoc, String.append_assoc, String.append_assoc,
        String.append_right_inj] at heq
      obtain rfl : v = v' :=
        h.1 (hclosing.stops_laterText vs rest) (hclosing.stops_laterText vs' rest') heq
      rw [String.append_right_inj] at heq
      rw [ih h.2 heq]

/-- A row is told apart by its values and its end, if it is known whether it is empty. -/
theorem intercalate_append_inj (hclosing : IsClosing closing) {vs vs' : List String}
    (h : ∀ p ∈ vs.zip vs', Separable p.1 p.2) (hnil : vs = [] ↔ vs' = [])
    (heq : ", ".intercalate vs ++ (closing ++ rest) = ", ".intercalate vs' ++ (closing ++ rest')) :
    vs = vs' := by
  cases vs with
  | nil => exact (hnil.1 rfl).symm
  | cons v vs =>
    cases vs' with
    | nil => exact hnil.2 rfl
    | cons v' vs' =>
      -- The row is read like one that stands after other values.
      have hlater : laterText (v :: vs) ++ (closing ++ rest) =
          laterText (v' :: vs') ++ (closing ++ rest') := by
        rw [laterText_cons, laterText_cons, ← intercalate_cons, ← intercalate_cons,
          String.append_assoc, String.append_assoc, heq]
      exact laterText_append_inj hclosing h hlater

/-! ### Lists -/

/-- What is written for a value is not taken for the end of a list. -/
def NotEnd (write : α → String) : Prop :=
  ∀ (a : α) (rest rest' : String), write a ++ rest ≠ "]" ++ rest'

theorem NotEnd.eq_nil {write : α → String} (h : NotEnd write) {as : List α}
    (heq : ", ".intercalate (as.map write) ++ ("]" ++ rest) = "]" ++ rest') : as = [] := by
  cases as with
  | nil => rfl
  | cons a as =>
    rw [List.map_cons, intercalate_cons, String.append_assoc] at heq
    exact absurd heq (h a _ _)

/-- Lists are told apart if their items are. -/
theorem Delimited.list {write : α → String} (h : Delimited write) (hend : NotEnd write) :
    Delimited fun as : List α => list (as.map write) := by
  intro as bs rest rest' _ _ heq
  have hrow : ", ".intercalate (as.map write) ++ ("]" ++ rest) =
      ", ".intercalate (bs.map write) ++ ("]" ++ rest') := by
    simpa only [Dump.list, String.append_assoc, String.append_right_inj] using heq
  have hitems : ∀ p ∈ (as.map write).zip (bs.map write), Separable p.1 p.2 := by
    rintro ⟨v, v'⟩ hp
    obtain ⟨hv, hv'⟩ := List.of_mem_zip hp
    obtain ⟨a, -, rfl⟩ := List.mem_map.1 hv
    obtain ⟨b, -, rfl⟩ := List.mem_map.1 hv'
    exact h.separable a b
  have hnil : as.map write = [] ↔ bs.map write = [] := by
    rw [List.map_eq_nil_iff, List.map_eq_nil_iff]
    constructor
    · rintro rfl
      exact hend.eq_nil hrow.symm
    · rintro rfl
      exact hend.eq_nil hrow
  exact h.injective.list_map (intercalate_append_inj (by decide) hitems hnil hrow)

/-! ### Records -/

/-- Two members of one name whose values are told apart. -/
def SeparableMember (m m' : String × String) : Prop :=
  m.1 = m'.1 ∧ Separable m.2 m'.2

/-- A member as it is written. -/
def entry (m : String × String) : String :=
  m.1 ++ ": " ++ m.2

theorem SeparableMember.entry {m m' : String × String} (h : SeparableMember m m') :
    Separable (entry m) (entry m') := by
  rw [Dump.entry, Dump.entry, h.1]
  exact h.2.append_left _

theorem SeparableMember.eq_of_entry {m m' : String × String} (h : SeparableMember m m')
    (heq : Dump.entry m = Dump.entry m') : m = m' := by
  rw [Dump.entry, Dump.entry, h.1, String.append_right_inj] at heq
  exact Prod.ext h.1 heq

theorem eq_of_map_entry {ms ms' : List (String × String)} (h : List.Forall₂ SeparableMember ms ms')
    (heq : ms.map entry = ms'.map entry) : ms = ms' := by
  induction h with
  | nil => rfl
  | cons hm _ ih =>
    rw [List.map_cons, List.map_cons, List.cons.injEq] at heq
    rw [hm.eq_of_entry heq.1, ih heq.2]

theorem separable_of_mem_zip {ms ms' : List (String × String)}
    (h : List.Forall₂ SeparableMember ms ms') :
    ∀ p ∈ (ms.map entry).zip (ms'.map entry), Separable p.1 p.2 := by
  induction h with
  | nil => simp
  | cons hm _ ih =>
    rw [List.map_cons, List.map_cons, List.zip_cons_cons, List.forall_mem_cons]
    exact ⟨hm.entry, ih⟩

/-- Records are told apart if their members are. -/
theorem delimited_fields {members : α → List (String × String)}
    (hinj : Function.Injective members)
    (h : ∀ a b, List.Forall₂ SeparableMember (members a) (members b)) :
    Delimited fun a => fields name (members a) := by
  intro a b rest rest' _ _ heq
  have hfields (a : α) : fields name (members a) =
      name ++ " \x7b " ++ ", ".intercalate ((members a).map entry) ++ " \x7d" := rfl
  have hrow : ", ".intercalate ((members a).map entry) ++ (" \x7d" ++ rest) =
      ", ".intercalate ((members b).map entry) ++ (" \x7d" ++ rest') := by
    simpa only [hfields, String.append_assoc, String.append_right_inj] using heq
  have hnil : (members a).map entry = [] ↔ (members b).map entry = [] := by
    rw [← List.length_eq_zero_iff, ← List.length_eq_zero_iff, List.length_map, List.length_map,
      (h a b).length_eq]
  exact hinj (eq_of_map_entry (h a b)
    (intercalate_append_inj (by decide) (separable_of_mem_zip (h a b)) hnil hrow))

theorem fields_append_ne (hname : name.toList.head?.any (· != ']'))
    (ms : List (String × String)) (rest rest' : String) :
    fields name ms ++ rest ≠ "]" ++ rest' := by
  intro heq
  have hheads := congrArg (·.toList.head?) heq
  cases hchars : name.toList with
  | nil => simp [hchars] at hname
  | cons c cs =>
    have hc : c = ']' := by simpa [fields, hchars] using hheads
    simp [hchars, hc] at hname

end Dump

open Dump

/-! ### Messages -/

theorem FieldSpec.delimited_dump : Delimited FieldSpec.dump := by
  refine delimited_fields (fun f g h => ?_) fun f g => ?_
  · simp only [List.cons.injEq, Prod.mk.injEq, true_and, and_true] at h
    obtain ⟨hname, htype, hdefault⟩ := h
    cases f
    cases g
    rw [FieldSpec.mk.injEq]
    exact ⟨delimited_text.injective hname, delimited_text.injective htype,
      delimited_option.injective hdefault⟩
  · simp [SeparableMember, delimited_text.separable, delimited_option.separable]

theorem RemoveSpec.delimited_dump : Delimited RemoveSpec.dump := by
  refine delimited_fields (fun r r' h => ?_) fun r r' => ?_
  · simp only [List.cons.injEq, Prod.mk.injEq, true_and, and_true] at h
    obtain ⟨hname, hdefault⟩ := h
    cases r
    cases r'
    rw [RemoveSpec.mk.injEq]
    exact ⟨delimited_text.injective hname, delimited_option.injective hdefault⟩
  · simp [SeparableMember, delimited_text.separable, delimited_option.separable]

theorem ChangeSpec.delimited_dump : Delimited ChangeSpec.dump := by
  refine delimited_fields (fun c c' h => ?_) fun c c' => ?_
  · simp only [List.cons.injEq, Prod.mk.injEq, true_and, and_true] at h
    obtain ⟨hname, htype⟩ := h
    cases c
    cases c'
    rw [ChangeSpec.mk.injEq]
    exact ⟨delimited_text.injective hname, delimited_text.injective htype⟩
  · simp [SeparableMember, delimited_text.separable]

theorem delimited_byte : Delimited fun b : UInt8 => toString b.toNat :=
  delimited_number.comp fun _ _ => UInt8.toNat_inj.1

theorem delimited_word : Delimited fun w : UInt32 => toString w.toNat :=
  delimited_number.comp fun _ _ => UInt32.toNat_inj.1

theorem VersionDelta.delimited_dump : Delimited VersionDelta.dump := by
  have hadd := FieldSpec.delimited_dump.list fun _ => fields_append_ne (by decide) _
  have hremove := RemoveSpec.delimited_dump.list fun _ => fields_append_ne (by decide) _
  have hchange := ChangeSpec.delimited_dump.list fun _ => fields_append_ne (by decide) _
  refine delimited_fields (fun d d' h => ?_) fun d d' => ?_
  · simp only [List.cons.injEq, Prod.mk.injEq, true_and, and_true] at h
    obtain ⟨hmajor, hminor, hadds, hremoves, hchanges⟩ := h
    cases d
    cases d'
    rw [VersionDelta.mk.injEq]
    exact ⟨delimited_byte.injective hmajor, delimited_byte.injective hminor, hadd.injective hadds,
      hremove.injective hremoves, hchange.injective hchanges⟩
  · simp only [SeparableMember, List.forall₂_cons, List.forall₂_nil_left_iff, true_and, and_true]
    exact ⟨delimited_byte.separable _ _, delimited_byte.separable _ _, hadd.separable _ _,
      hremove.separable _ _, hchange.separable _ _⟩

/-- Messages are told apart by what is written for them. -/
theorem Message.delimited_dump : Delimited Message.dump := by
  have hversions := VersionDelta.delimited_dump.list fun _ => fields_append_ne (by decide) _
  refine delimited_fields (fun m m' h => ?_) fun m m' => ?_
  · simp only [List.cons.injEq, Prod.mk.injEq, true_and, and_true] at h
    obtain ⟨hid, hname, hflags, hdeltas⟩ := h
    cases m
    cases m'
    rw [Message.mk.injEq]
    exact ⟨delimited_byte.injective hid, delimited_text.injective hname,
      delimited_word.injective hflags, hversions.injective hdeltas⟩
  · simp only [SeparableMember, List.forall₂_cons, List.forall₂_nil_left_iff, true_and, and_true]
    exact ⟨delimited_byte.separable _ _, delimited_text.separable _ _,
      delimited_word.separable _ _, hversions.separable _ _⟩

/-- The lines of all messages determine the messages. -/
theorem Definitions.messages_eq_of_dump {d d' : Definitions} (h : d.dump = d'.dump) :
    d.messages = d'.messages := by
  unfold Definitions.dump at h
  have hline (x : String) : Stops ("\n" ++ x) := stops_append (by decide) x
  generalize d.messages = ms at h ⊢
  generalize d'.messages = ms' at h ⊢
  induction ms generalizing ms' with
  | nil =>
    cases ms' with
    | nil => rfl
    | cons m' ms' => simpa using congrArg String.toList h
  | cons m ms ih =>
    cases ms' with
    | nil => simpa using congrArg String.toList h
    | cons m' ms' =>
      rw [List.map_cons, List.map_cons, String.join_cons, String.join_cons, String.append_assoc,
        String.append_assoc] at h
      obtain rfl := Message.delimited_dump (hline _) (hline _) h
      rw [String.append_right_inj, String.append_right_inj] at h
      rw [ih ms' h]

/-- **The dump determines the messages.** The dump of a schema is always emitted. Two schemas have
the same dump exactly when they have the same messages, with all of their data. -/
theorem Backend.dump_eq_dump_iff (g g' : Module.Grammar) (d d' : Definitions)
    (s s' : Settings) :
    ∃ text text', (Backend.dump.emit g d s).outcome = .ok text ∧
      (Backend.dump.emit g' d' s').outcome = .ok text' ∧
      (text = text' ↔ d.messages = d'.messages) := by
  refine ⟨d.dump, d'.dump, rfl, rfl, Definitions.messages_eq_of_dump, fun h => ?_⟩
  rw [Definitions.dump, Definitions.dump, h]

end WireSchema
