import Mathlib.Tactic.Common

/-!
# The characters and the lines of a text

A property of characters holds throughout a text that is joined from parts, if it holds throughout
the parts. For the property of being no line break this says where lines end: a text that is put
together from lines with a line break after each is cut into these lines again.

## Main definitions

* `Text.AllChars`: every character of a text has a property.
* `Text.OneLine`: a text has no line break.
* `Text.Unbroken`: a text has neither tabs nor line breaks.
* `Text.lineSeparators`: the characters at which some readers begin a new line.

## Main results

* `Text.allChars_intercalate`: the characters of a joined text.
* `Text.exists_digit_of_mem_toDigits`: the characters of a number.
* `Text.splitOn_flatMap_lines`: lines are read back from their text.
* `Text.count_flatMap_lines`: a text has as many line breaks as lines.
-/

namespace WireSchema.Text

/-! ### Characters -/

/-- Every character of a text has a property. -/
def AllChars (q : Char → Prop) (text : String) : Prop :=
  ∀ c ∈ text.toList, q c

variable {q : Char → Prop}

theorem allChars_append_iff {a b : String} :
    AllChars q (a ++ b) ↔ AllChars q a ∧ AllChars q b := by
  simp only [AllChars, String.toList_append, List.forall_mem_append]

theorem allChars_ofList_iff {cs : List Char} :
    AllChars q (String.ofList cs) ↔ ∀ c ∈ cs, q c := by
  rw [AllChars, String.toList_ofList]

theorem mem_intercalate {separator : List Char} {parts : List (List Char)} {c : Char}
    (h : c ∈ separator.intercalate parts) : c ∈ separator ∨ ∃ w ∈ parts, c ∈ w := by
  induction parts with
  | nil => simp at h
  | cons w parts ih =>
    cases parts with
    | nil => exact .inr ⟨w, List.mem_cons_self, by simpa using h⟩
    | cons w' parts =>
      rw [List.intercalate_cons_cons, List.mem_append, List.mem_append] at h
      rcases h with (h | h) | h
      · exact .inr ⟨w, List.mem_cons_self, h⟩
      · exact .inl h
      · obtain h | ⟨w'', hw'', h⟩ := ih h
        · exact .inl h
        · exact .inr ⟨w'', List.mem_cons_of_mem w hw'', h⟩

theorem allChars_intercalate {separator : String} {parts : List String}
    (hsep : AllChars q separator) (h : ∀ t ∈ parts, AllChars q t) :
    AllChars q (separator.intercalate parts) := by
  intro c hc
  rw [String.toList_intercalate] at hc
  obtain hc | ⟨w, hw, hc⟩ := mem_intercalate hc
  · exact hsep c hc
  · obtain ⟨t, ht, rfl⟩ := List.mem_map.1 hw
    exact h t ht c hc

/-- A number is written with the digits of its base. -/
theorem exists_digit_of_mem_toDigits {b n : Nat} {c : Char} (hb : 1 < b)
    (h : c ∈ Nat.toDigits b n) : ∃ d < b, c = d.digitChar := by
  induction n using Nat.strongRecOn with
  | ind n ih =>
    rw [Nat.toDigits_eq_if hb] at h
    split_ifs at h with hn
    · exact ⟨n, hn, List.mem_singleton.1 h⟩
    · obtain h | h := List.mem_append.1 h
      · exact ih (n / b) (Nat.div_lt_self (by omega) hb) h
      · exact ⟨n % b, n.mod_lt (by omega), List.mem_singleton.1 h⟩

/-! ### Lines -/

/-- A text without a line break. -/
def OneLine (text : String) : Prop :=
  '\n' ∉ text.toList

instance : DecidablePred OneLine := fun text => inferInstanceAs (Decidable ('\n' ∉ text.toList))

theorem oneLine_append_iff {a b : String} : OneLine (a ++ b) ↔ OneLine a ∧ OneLine b := by
  simp only [OneLine, String.toList_append, List.mem_append, not_or]

theorem oneLine_eq : OneLine = AllChars (· ≠ '\n') :=
  funext fun _ => propext ⟨fun h _ hc heq => h (heq ▸ hc), fun h hmem => h _ hmem rfl⟩

/-- A text without tabs and line breaks. -/
def Unbroken : String → Prop :=
  AllChars fun c => c ≠ '\t' ∧ c ≠ '\n'

instance : DecidablePred Unbroken := fun text => List.decidableBAll _ text.toList

/-- The characters at which some readers begin a new line: the line break, the vertical tab, the
form feed, the carriage return, the next line and the two separators of lines and paragraphs. -/
def lineSeparators : List Char :=
  ['\n', '\x0b', '\x0c', '\r', '\u0085', '\u2028', '\u2029']

/-- Lines are read back from their text. Nothing stands behind the last line break. -/
theorem splitOn_flatMap_lines {ls : List (List Char)} (h : ∀ l ∈ ls, '\n' ∉ l) :
    (ls.flatMap (· ++ ['\n'])).splitOn '\n' = ls ++ [[]] := by
  rw [List.splitOn_eq_splitOnP]
  induction ls with
  | nil => rfl
  | cons l ls ih =>
    rw [List.forall_mem_cons] at h
    have hbreak : ∀ c ∈ l, (c == '\n') = false := fun c hc =>
      beq_eq_false_iff_ne.2 fun heq => h.1 (heq ▸ hc)
    rw [List.flatMap_cons, List.append_assoc, List.singleton_append,
      List.splitOnP_append_cons _ _ rfl, List.splitOnP_eq_singleton hbreak, ih h.2]
    rfl

/-- A text has as many line breaks as lines. -/
theorem count_flatMap_lines {ls : List (List Char)} (h : ∀ l ∈ ls, '\n' ∉ l) :
    (ls.flatMap (· ++ ['\n'])).count '\n' = ls.length := by
  induction ls with
  | nil => rfl
  | cons l ls ih =>
    rw [List.forall_mem_cons] at h
    rw [List.flatMap_cons, List.count_append, List.count_append, List.count_eq_zero.2 h.1, ih h.2,
      List.count_singleton_self, List.length_cons]
    omega

end WireSchema.Text
