import WireSchema.Backend
import WireSchema.Module.Standard
import WireSchema.Proofs.Text.Characters
import WireSchema.Proofs.Text.Quoted

/-!
# The lines of the debug dump

The texts of a schema stand between quotes in its dump, at every depth, and a quoted text is made of
characters that print as themselves. So are numbers, options, lists and records, and so is a whole
message. No line separator is such a character. Hence the line breaks of a dump are those that end
the messages, whatever the names, the types and the defaults look like.

## Main definitions

* `Dump.Printable`: every character of a text prints as itself.
* `Dump.recordNames`: the names of the records and of their members.

## Main results

* `Dump.printable_list`, `Dump.printable_fields`: lists and records.
* `Message.printable_dump`: messages.
* `Backend.dump_lines`: the lines of a dump are its messages.
-/

namespace WireSchema

open Text

namespace Dump

/-- Every character of a text prints as itself. -/
def Printable (text : String) : Prop :=
  text.toList.all Quoted.isPrintable = true

instance : DecidablePred Printable := fun text =>
  inferInstanceAs (Decidable (text.toList.all Quoted.isPrintable = true))

theorem printable_eq : Printable = AllChars (Quoted.isPrintable · = true) :=
  funext fun _ => propext List.all_eq_true

theorem printable_append_iff {a b : String} :
    Printable (a ++ b) ↔ Printable a ∧ Printable b := by
  rw [printable_eq]
  exact allChars_append_iff

theorem printable_intercalate {separator : String} {parts : List String}
    (hsep : Printable separator) (h : ∀ t ∈ parts, Printable t) :
    Printable (separator.intercalate parts) := by
  rw [printable_eq] at *
  exact allChars_intercalate hsep h

/-- Of the line separators none prints as itself. -/
theorem Printable.notMem_lineSeparators {text : String} (h : Printable text) {c : Char}
    (hc : c ∈ text.toList) : c ∉ lineSeparators := by
  have hnone : lineSeparators.all (!Quoted.isPrintable ·) = true := by decide +kernel
  intro hsep
  have hnot := List.all_eq_true.1 hnone c hsep
  rw [List.all_eq_true.1 h c hc] at hnot
  exact absurd hnot (by decide)

theorem Printable.oneLine {text : String} (h : Printable text) : OneLine text :=
  fun hmem => h.notMem_lineSeparators hmem (by decide)

/-! ### Values -/

theorem printable_text (s : String) : Printable (text s) := by
  rw [Printable, text, String.toList_ofList]
  exact all_isPrintable_quote s.toList

theorem printable_number (n : Nat) : Printable n.repr := by
  rw [Printable, Nat.toList_repr]
  exact List.all_eq_true.2 fun _ hc =>
    Quoted.isPrintable_of_mem_toDigits (by decide) (by decide) hc

theorem printable_option (o : Option String) : Printable (option o) := by
  cases o with
  | none => decide +kernel
  | some s =>
    rw [option, printable_append_iff, printable_append_iff]
    exact ⟨⟨by decide +kernel, printable_text s⟩, by decide +kernel⟩

/-- A list prints as itself if its items do. -/
theorem printable_list {items : List String} (h : ∀ v ∈ items, Printable v) :
    Printable (list items) := by
  rw [list, printable_append_iff, printable_append_iff]
  exact ⟨⟨by decide +kernel, printable_intercalate (by decide +kernel) h⟩, by decide +kernel⟩

/-- The names of the records and of their members. -/
def recordNames : List String :=
  ["Message", "VersionDelta", "FieldSpec", "RemoveSpec", "ChangeSpec", "id", "name", "flags",
    "versions", "major", "minor", "add", "remove", "change", "ty", "default"]

theorem printable_of_mem_recordNames {name : String} (h : name ∈ recordNames) :
    Printable name := by
  have hall : recordNames.all (Printable ·) = true := by decide +kernel
  exact of_decide_eq_true (List.all_eq_true.1 hall name h)

/-- A record prints as itself if its values do. -/
theorem printable_fields {name : String} {members : List (String × String)}
    (hname : name ∈ recordNames) (h : ∀ m ∈ members, m.1 ∈ recordNames ∧ Printable m.2) :
    Printable (fields name members) := by
  have hmember : ∀ t ∈ members.map fun m => m.1 ++ ": " ++ m.2, Printable t := by
    intro t ht
    obtain ⟨m, hm, rfl⟩ := List.mem_map.1 ht
    rw [printable_append_iff, printable_append_iff]
    exact ⟨⟨printable_of_mem_recordNames (h m hm).1, by decide +kernel⟩, (h m hm).2⟩
  rw [fields, printable_append_iff, printable_append_iff, printable_append_iff]
  exact ⟨⟨⟨printable_of_mem_recordNames hname, by decide +kernel⟩,
    printable_intercalate (by decide +kernel) hmember⟩, by decide +kernel⟩

end Dump

open Dump

/-! ### Messages -/

theorem FieldSpec.printable_dump (f : FieldSpec) : Printable f.dump :=
  printable_fields (by decide) (by simp [recordNames, printable_text, printable_option])

theorem RemoveSpec.printable_dump (r : RemoveSpec) : Printable r.dump :=
  printable_fields (by decide) (by simp [recordNames, printable_text, printable_option])

theorem ChangeSpec.printable_dump (c : ChangeSpec) : Printable c.dump :=
  printable_fields (by decide) (by simp [recordNames, printable_text])

theorem VersionDelta.printable_dump (d : VersionDelta) : Printable d.dump := by
  have hadd : Printable (list (d.add.map FieldSpec.dump)) :=
    printable_list (List.forall_mem_map.2 fun f _ => f.printable_dump)
  have hremove : Printable (list (d.remove.map RemoveSpec.dump)) :=
    printable_list (List.forall_mem_map.2 fun r _ => r.printable_dump)
  have hchange : Printable (list (d.change.map ChangeSpec.dump)) :=
    printable_list (List.forall_mem_map.2 fun c _ => c.printable_dump)
  exact printable_fields (by decide)
    (by simp [recordNames, printable_number, hadd, hremove, hchange])

theorem Message.printable_dump (m : Message) : Printable m.dump := by
  have hversions : Printable (list (m.versions.map VersionDelta.dump)) :=
    printable_list (List.forall_mem_map.2 fun d _ => d.printable_dump)
  exact printable_fields (by decide)
    (by simp [recordNames, printable_text, printable_number, hversions])

/-! ### Lines -/

theorem Definitions.toList_dump (d : Definitions) :
    d.dump.toList = (d.messages.map (·.dump.toList)).flatMap (· ++ ['\n']) := by
  simp [Definitions.dump, List.flatMap_map]

theorem Definitions.oneLine_dumps (d : Definitions) :
    ∀ l ∈ d.messages.map (·.dump.toList), '\n' ∉ l :=
  List.forall_mem_map.2 fun m _ => m.printable_dump.oneLine

theorem Definitions.dump_eq_empty_iff (d : Definitions) : d.dump = "" ↔ d.messages = [] := by
  rw [← String.toList_eq_nil_iff, d.toList_dump]
  cases d.messages with
  | nil => simp
  | cons m ms => simp

theorem Definitions.getLast?_dump {d : Definitions} (h : d.messages ≠ []) :
    d.dump.toList.getLast? = some '\n' := by
  obtain ⟨ms, m, hms⟩ := (List.eq_nil_or_concat d.messages).resolve_left h
  simp [d.toList_dump, hms]

/-- A line separator in a dump is a line break that ends a message. -/
theorem Definitions.eq_of_mem_lineSeparators {d : Definitions} {c : Char}
    (hc : c ∈ d.dump.toList) (hsep : c ∈ lineSeparators) : c = '\n' := by
  rw [d.toList_dump] at hc
  obtain ⟨l, hl, hc⟩ := List.mem_flatMap.1 hc
  obtain ⟨m, -, rfl⟩ := List.mem_map.1 hl
  obtain hc | hc := List.mem_append.1 hc
  · exact absurd hsep (m.printable_dump.notMem_lineSeparators hc)
  · exact List.mem_singleton.1 hc

/-- **A dump has one line for each message.** Whatever characters stand in the names, the types and
the defaults of a schema, its dump is emitted with as many line breaks as there are messages. It is
empty if there are none, and otherwise ends with a line break. Cut at its line breaks it gives the
texts of the messages in their order, and nothing after the last one. None of the other line
separators occurs in it, so every reader finds these lines. Neither the objects of the schema nor
the settings have a part in it. -/
theorem Backend.dump_lines (g : Module.Grammar) (d : Definitions) (s : Settings) :
    ∃ text, (Backend.dump.emit g d s).outcome = .ok text ∧
      text.toList.count '\n' = d.messages.length ∧
      (text = "" ↔ d.messages = []) ∧ (text ≠ "" → text.toList.getLast? = some '\n') ∧
      text.toList.splitOn '\n' = d.messages.map (·.dump.toList) ++ [[]] ∧
      (∀ c ∈ text.toList, c ∈ lineSeparators → c = '\n') ∧
      ∀ g' objects s', (Backend.dump.emit g' { d with objects } s').outcome = .ok text := by
  have hcount : d.dump.toList.count '\n' = d.messages.length := by
    rw [d.toList_dump, count_flatMap_lines d.oneLine_dumps, List.length_map]
  have hlines : d.dump.toList.splitOn '\n' = d.messages.map (·.dump.toList) ++ [[]] := by
    rw [d.toList_dump, splitOn_flatMap_lines d.oneLine_dumps]
  exact ⟨d.dump, rfl, hcount, d.dump_eq_empty_iff,
    fun h => Definitions.getLast?_dump fun hnil => h (d.dump_eq_empty_iff.2 hnil), hlines,
    fun _ => Definitions.eq_of_mem_lineSeparators, fun _ _ _ => rfl⟩

/-- An object and two messages with line separators in their names, and in the type and the default
of a field. -/
def brokenTexts : Definitions where
  objects := [{ name := "Po\nse" }]
  messages := [
    { id := 1, name := "Cha\nt", versions := [
      { major := 1
        add := [{ name := "text\r\n", type := "char\n*", default := some "\u2028" }] }] },
    { id := 2, name := "\n\x0b\x0c\r\u0085\u2028\u2029" }]

/-- The dump of `brokenTexts` has two lines. In the second one the separators are spelled out. -/
theorem Backend.dump_lines_brokenTexts :
    ∃ text, (Backend.dump.emit Module.standardGrammar brokenTexts {}).outcome = .ok text ∧
      text.toList.count '\n' = 2 ∧ text.toList.getLast? = some '\n' ∧
      (text.toList.splitOn '\n')[1]? = some (
        "Message \x7b id: 2, name: \"\\n\\u\x7bb\x7d\\u\x7bc\x7d\\r\\u\x7b85\x7d".toList ++
          "\\u\x7b2028\x7d\\u\x7b2029\x7d\", flags: 0, versions: [] \x7d".toList) := by
  obtain ⟨text, hok, hcount, hempty, hlast, hlines, -, -⟩ :=
    Backend.dump_lines Module.standardGrammar brokenTexts {}
  have hne : text ≠ "" := fun h => absurd (hempty.1 h) (by decide)
  refine ⟨text, hok, hcount, hlast hne, ?_⟩
  rw [hlines]
  decide +kernel

end WireSchema
