import WireSchema.Backend
import WireSchema.Proofs.Emission.Collapse
import WireSchema.Proofs.Replay.Policies

/-!
# The names of the data members of a message class

The class of a message declares its version, a member for every field, and a second member for the
number of items of every array. The replay keeps the names of fields apart, and a plan keeps them
apart from the version. The names of the second members are made from those of the fields, and
nothing keeps a field from having such a name itself. So the names of all members differ exactly
when no field is called like the number of items of an array.

## Main definitions

* `Header.dataMembers`: the data members of the class of a message.
* `Header.countNames`: the names of the members that hold numbers of items.

## Main results

* `Header.names_members_perm`: the members of fields are called like the fields and the counts.
* `Header.nodup_dataMembers_iff`: when the data members of a class have different names.
* `Header.emit_dataMembers`: the same for every class of an emitted header.
* `Header.dataMembers_squadSchema`: a header with a class that declares two members of one name.
-/

namespace WireSchema

namespace Header

/-- The data members of the class of a message. -/
def dataMembers (m : PlannedMessage) : List Member :=
  { type := "unsigned char", name := versionMember, zeroed := false } :: m.fields.flatMap members

/-- The names of the members that hold the numbers of items of arrays. -/
def countNames (fields : List PlannedField) : List String :=
  (fields.filter (·.kind = .array)).map fun f => countName f.name

/-- The class of a message declares its data members in this order. -/
theorem declarations_sublist_messageClass (rollback : Bool) (m : PlannedMessage) :
    ((dataMembers m).map fun x => (⟨memberDepth, x.declaration⟩ : Line)).Sublist
      (messageClass rollback m) := by
  have hversion : (⟨memberDepth, "unsigned char " ++ versionMember ++ ";"⟩ : Line) ::
      declarations m.fields =
        (dataMembers m).map fun x => (⟨memberDepth, x.declaration⟩ : Line) := rfl
  rw [← hversion, messageClass, List.append_assoc, List.append_assoc, List.append_assoc]
  refine .cons _ (.cons_cons _ ?_)
  exact .cons _ (.cons _ (.cons _ (List.sublist_append_left _ _)))

/-! ### Names -/

theorem countName_injective : Function.Injective countName := fun _ _ h =>
  (String.append_right_inj _).1 ((String.append_left_inj _).1 h)

theorem countName_ne_versionMember (field : String) : countName field ≠ versionMember := by
  intro h
  have hhead := congrArg (·.toList.head?) h
  simp [countName, versionMember] at hhead

variable {fields : List PlannedField}

theorem mem_countNames {name : String} :
    name ∈ countNames fields ↔ ∃ f ∈ fields, f.kind = .array ∧ countName f.name = name := by
  simp [countNames, and_assoc]

theorem names_members (f : PlannedField) :
    (members f).map Member.name =
      f.name :: if f.kind = .array then [countName f.name] else [] := by
  unfold members
  cases f.kind <;> rfl

theorem countNames_cons (f : PlannedField) (fields : List PlannedField) :
    countNames (f :: fields) =
      (if f.kind = .array then [countName f.name] else []) ++ countNames fields := by
  by_cases harray : f.kind = .array <;> simp [countNames, harray]

/-- The members of fields are called like the fields and the counts. -/
theorem names_members_perm (fields : List PlannedField) :
    ((fields.flatMap members).map Member.name).Perm
      (fields.map (·.name) ++ countNames fields) := by
  induction fields with
  | nil => rfl
  | cons f fields ih =>
    rw [List.flatMap_cons, List.map_append, names_members, List.map_cons, countNames_cons]
    exact ((ih.append_left _).trans (List.perm_append_comm_assoc _ _ _)).cons f.name

theorem nodup_countNames (h : (fields.map (·.name)).Nodup) : (countNames fields).Nodup := by
  have hsub : ((fields.filter (·.kind = .array)).map (·.name)).Nodup :=
    h.sublist (List.filter_sublist.map _)
  have hmap := hsub.map countName_injective
  rwa [List.map_map] at hmap

/-- The data members of a class have different names when no field is called like the number of
items of an array. -/
theorem nodup_dataMembers_iff {m : PlannedMessage} (hnames : (m.fields.map (·.name)).Nodup)
    (hversion : versionMember ∉ m.fields.map (·.name)) :
    ((dataMembers m).map Member.name).Nodup ↔
      ∀ f ∈ m.fields, f.kind = .array → ∀ g ∈ m.fields, g.name ≠ countName f.name := by
  have hperm := names_members_perm m.fields
  have hversion' : versionMember ∉ (m.fields.flatMap members).map Member.name := by
    rw [hperm.mem_iff, List.mem_append, mem_countNames]
    rintro (hfield | ⟨f, -, -, hcount⟩)
    · exact hversion hfield
    · exact countName_ne_versionMember f.name hcount
  rw [dataMembers, List.map_cons, List.nodup_cons, hperm.nodup_iff, List.nodup_append]
  constructor
  · rintro ⟨-, -, -, hapart⟩ f hf harray g hg
    exact hapart _ (List.mem_map_of_mem hg) _ (mem_countNames.2 ⟨f, hf, harray, rfl⟩)
  · intro h
    refine ⟨hversion', hnames, nodup_countNames hnames, fun name hname count hcount => ?_⟩
    obtain ⟨g, hg, rfl⟩ := List.mem_map.1 hname
    obtain ⟨f, hf, harray, rfl⟩ := mem_countNames.1 hcount
    exact h f hf harray g hg

/-- A header is emitted from the plan of a schema. -/
theorem emit_eq_ok_iff {g : Module.Grammar} {d : Definitions} {s : Settings} {text : String} :
    (Backend.header.emit g d s).outcome = .ok text ↔
      ∃ p, (Plan.make d s.generate).outcome = .ok p ∧
        renderLines (lines s.header s.generate.rollback p) = text := by
  simp only [Backend.emit, emit, Logged.outcome_bind, Logged.outcome_pure, bind_eq_ok_iff,
    Except.ok.injEq]

/-- **When the data members of a message class have different names.** A header that is emitted has
a class for every planned message, which declares its data members. Their names are different when
no field is called like the number of items of an array of the same message, and only then. -/
theorem emit_dataMembers (g : Module.Grammar) (d : Definitions) (s : Settings) {text : String}
    (h : (Backend.header.emit g d s).outcome = .ok text) :
    ∃ p : Plan, (Plan.make d s.generate).outcome = .ok p ∧
      text = renderLines (lines s.header s.generate.rollback p) ∧
      ∀ m ∈ p.messages,
        ((dataMembers m).map fun x => (⟨memberDepth, x.declaration⟩ : Line)).Sublist
          (messageClass s.generate.rollback m) ∧
        (((dataMembers m).map Member.name).Nodup ↔
          ∀ f ∈ m.fields, f.kind = .array → ∀ f' ∈ m.fields, f'.name ≠ countName f.name) := by
  obtain ⟨p, hplan, htext⟩ := emit_eq_ok_iff.1 h
  refine ⟨p, hplan, htext.symm, fun m hm => ?_⟩
  obtain ⟨source, -, hmake⟩ := Plan.exists_of_mem_messages hplan hm
  obtain ⟨hnames, hversion⟩ := PlannedMessage.names_of_make hmake
  exact ⟨declarations_sublist_messageClass _ m, nodup_dataMembers_iff hnames hversion⟩

/-- A message with an array of units and a number. -/
def squadSchema (number : String) : Definitions where
  messages := [{
    id := 7
    name := "Squad"
    versions := [{
      major := 1
      add := [{ name := "units", type := "Unit[]" }, { name := number, type := "int" }] }] }]

/-- The plan of `squadSchema`. -/
def squad (number : String) : PlannedMessage where
  id := 7
  name := "Squad"
  version := 1
  fields := [.make .substring "units" 0 "Unit[]", .make .substring number 1 "int"]

/-- A number that is called like the number of units, but without the underscores, is apart from
it. -/
theorem emit_dataMembers_squadSchema :
    ∃ text,
      (Backend.header.emit Module.standardGrammar (squadSchema "units_len") {}).outcome = .ok text ∧
      (Plan.make (squadSchema "units_len") {}).outcome = .ok { messages := [squad "units_len"] } ∧
      (dataMembers (squad "units_len")).map Member.name =
        ["ver", "units", "__units_len", "units_len"] ∧
      ((dataMembers (squad "units_len")).map Member.name).Nodup := by
  have hplan : (Plan.make (squadSchema "units_len") {}).outcome =
      .ok { messages := [squad "units_len"] } :=
    (Plan.make_of_inOrder rfl (by decide)).trans (by decide +kernel)
  have hemit := emit_eq_ok_iff (g := Module.standardGrammar) (s := {}).2 ⟨_, hplan, rfl⟩
  obtain ⟨p, hp, -, hmembers⟩ := emit_dataMembers _ _ _ hemit
  obtain rfl : { messages := [squad "units_len"] } = p := Except.ok.inj (hplan.symm.trans hp)
  refine ⟨_, hemit, hplan, by decide +kernel, (hmembers _ List.mem_cons_self).2.2 ?_⟩
  decide +kernel

/-- A number that is called like the number of units is declared beside it. -/
theorem dataMembers_squadSchema :
    ∃ text,
      (Backend.header.emit Module.standardGrammar (squadSchema "__units_len") {}).outcome =
        .ok text ∧
      (Plan.make (squadSchema "__units_len") {}).outcome =
        .ok { messages := [squad "__units_len"] } ∧
      (dataMembers (squad "__units_len")).map Member.name =
        ["ver", "units", "__units_len", "__units_len"] ∧
      ¬ ((dataMembers (squad "__units_len")).map Member.name).Nodup := by
  have hplan : (Plan.make (squadSchema "__units_len") {}).outcome =
      .ok { messages := [squad "__units_len"] } :=
    (Plan.make_of_inOrder rfl (by decide)).trans (by decide +kernel)
  have hnames : (dataMembers (squad "__units_len")).map Member.name =
      ["ver", "units", "__units_len", "__units_len"] := by decide +kernel
  exact ⟨_, emit_eq_ok_iff.2 ⟨_, hplan, rfl⟩, hplan, hnames, by rw [hnames]; decide⟩

end Header

end WireSchema
