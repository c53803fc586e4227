import Mathlib.Data.List.Nodup
import Mathlib.Logic.Relation
import Mathlib.Tactic.Common
import WireSchema.Schema.Document

/-!
# Documents that say the same

The document of a schema is made of nested records. What is read from a record depends on its
members alone: they may stand in any order, members that the record does not have may stand between
them, and a member that holds the value it has when it is left out may be left out. `Part.rules`
lists the members of each kind of record, with these values and with the records that a member
lists. One change of a document is `Rewords`; that it does not change what is read is shown for one
change, in a record or inside of it, and then for any number of changes.

## Main definitions

* `Part`, `Part.rules`: the kinds of records in a document, and their members.
* `Part.read?`: what is read from a record.
* `Rewords`: one change of a document that does not change what it says.
* `Regular`: no record of a document has one of its members twice.

## Main results

* `Part.read?_table_congr`: a record is read through its members alone.
* `Rewords.regular`, `Rewords.read?_eq`: what one change preserves.
* `Regular.read?_of_rewords`: what any number of changes preserve.
-/

namespace WireSchema

/-! ### The records of a document -/

/-- The kinds of records in the document of a schema. -/
inductive Part
  | schema
  | object
  | message
  | delta
  | addition
  | removal
  | change
  deriving DecidableEq, Repr

/-- A member of a record. -/
structure MemberRule where
  name : String
  /-- The value that the member has when it is left out, unless it has to be there. -/
  initial : Option Value := none
  /-- The records that the member lists, if it lists records. -/
  items : Option Part := none

namespace Part

/-- A member that lists records, none of them if it is left out. -/
def listRule (name : String) (items : Part) : MemberRule :=
  { name, initial := some (.list []), items := some items }

/-- The members of a record. -/
def rules : Part → List MemberRule
  | schema => [listRule "object" object, listRule "message" message]
  | object => [{ name := "type" }, listRule "add" addition]
  | message =>
    [{ name := "id" }, { name := "type" }, { name := "flags", initial := some (.int 0) },
     listRule "version" delta]
  | delta =>
    [{ name := "major" }, { name := "minor", initial := some (.int 0) }, listRule "add" addition,
     listRule "remove" removal, listRule "change" change]
  | addition =>
    [{ name := "name" }, { name := "type" }, { name := "default", initial := some .null }]
  | removal => [{ name := "name" }, { name := "default", initial := some .null }]
  | change => [{ name := "name" }, { name := "type" }]

/-- What a record describes. -/
def Data : Part → Type
  | schema => Definitions
  | object => Object
  | message => Message
  | delta => VersionDelta
  | addition => FieldSpec
  | removal => RemoveSpec
  | change => ChangeSpec

/-- Read a record. -/
def read? (format : Format) : (p : Part) → Value → Option p.Data
  | schema => Definitions.ofValue? format
  | object => Object.ofValue? format
  | message => Message.ofValue? format
  | delta => VersionDelta.ofValue? format
  | addition => FieldSpec.ofValue? format
  | removal => RemoveSpec.ofValue? format
  | change => ChangeSpec.ofValue? format

theorem nodup_names (p : Part) : (p.rules.map MemberRule.name).Nodup := by
  cases p <;> decide

/-- A member is known by its name. -/
theorem eq_of_name_eq {p : Part} {r r' : MemberRule} (h : r ∈ p.rules) (h' : r' ∈ p.rules)
    (hname : r.name = r'.name) : r = r' :=
  List.inj_on_of_nodup_map p.nodup_names h h' hname

end Part

/-- One change of a document that does not change what it says, in a record of kind `p` or inside
of it. -/
inductive Rewords : Part → Value → Value → Prop
  /-- The members stand in another order. -/
  | permute {p : Part} {entries entries' : List (String × Value)} (h : entries.Perm entries') :
      Rewords p (.table entries) (.table entries')
  /-- There is a member that the record does not have. -/
  | extend {p : Part} (before after : List (String × Value)) (name : String) (v : Value)
      (hname : ∀ r ∈ p.rules, r.name ≠ name) :
      Rewords p (.table (before ++ after)) (.table (before ++ (name, v) :: after))
  /-- A member is left out that has the value it has when it is left out. -/
  | drop {p : Part} (before after : List (String × Value)) {r : MemberRule} (hr : r ∈ p.rules)
      {v : Value} (hv : r.initial = some v) :
      Rewords p (.table (before ++ (r.name, v) :: after)) (.table (before ++ after))
  /-- One of the records that a member lists is changed. -/
  | inside {p q : Part} (before after : List (String × Value)) {r : MemberRule} (hr : r ∈ p.rules)
      (hq : r.items = some q) (left right : List Value) {v v' : Value} (h : Rewords q v v') :
      Rewords p (.table (before ++ (r.name, .list (left ++ v :: right)) :: after))
        (.table (before ++ (r.name, .list (left ++ v' :: right)) :: after))

/-! ### Members -/

theorem lookup_eq_some_iff_mem {entries : List (String × Value)} {name : String}
    (h : (entries.map Prod.fst).count name ≤ 1) (v : Value) :
    entries.lookup name = some v ↔ (name, v) ∈ entries := by
  induction entries with
  | nil => simp
  | cons e entries ih =>
    obtain ⟨n, u⟩ := e
    by_cases hn : name = n
    · subst hn
      -- no other member has the name
      have hrest : (name, v) ∉ entries := fun hmem => by
        have hpos : 0 < (entries.map Prod.fst).count name :=
          List.count_pos_iff.2 (List.mem_map_of_mem hmem)
        rw [List.map_cons, List.count_cons_self] at h
        omega
      rw [List.lookup_cons_self, List.mem_cons]
      simp [hrest, eq_comm]
    · rw [List.map_cons, List.count_cons_of_ne (Ne.symm hn)] at h
      rw [List.lookup_cons, beq_eq_false_iff_ne.2 hn, List.mem_cons]
      simp [ih h, hn]

/-- What a record holds for a member, whether it is left out or not. -/
def MemberRule.settled (r : MemberRule) (entries : List (String × Value)) : Option Value :=
  (entries.lookup r.name).or r.initial

/-- Is the same read for a member from two records? -/
def MemberRule.SameReading (format : Format) (r : MemberRule)
    (entries entries' : List (String × Value)) : Prop :=
  match r.items with
  | none => r.settled entries = r.settled entries'
  | some q =>
    (r.settled entries).bind (Value.listOf? (q.read? format)) =
      (r.settled entries').bind (Value.listOf? (q.read? format))

theorem MemberRule.sameReading_of_settled_eq {format : Format} {r : MemberRule}
    {entries entries' : List (String × Value)} (h : r.settled entries = r.settled entries') :
    r.SameReading format entries entries' := by
  unfold SameReading
  split
  · exact h
  · rw [h]

section Congruence

variable {format : Format} {entries entries' : List (String × Value)} {name : String} {α : Type}
  {value? : Value → Option α}

theorem required?_congr
    (h : ({ name } : MemberRule).SameReading format entries entries') :
    required? entries name value? = required? entries' name value? := by
  have hlookup : entries.lookup name = entries'.lookup name := by
    simpa only [MemberRule.SameReading, MemberRule.settled, Option.or_none] using h
  rw [required?, required?, hlookup]

theorem defaulted?_eq_bind {r : MemberRule} {v : Value} {default : α}
    (hinitial : r.initial = some v) (hv : value? v = some default)
    (entries : List (String × Value)) :
    defaulted? entries r.name value? default = (r.settled entries).bind value? := by
  rw [defaulted?, MemberRule.settled, hinitial]
  cases entries.lookup r.name with
  | none => exact hv.symm
  | some u => rfl

theorem defaulted?_congr {v : Value}
    (h : ({ name, initial := some v } : MemberRule).SameReading format entries entries')
    {default : α} (hv : value? v = some default) :
    defaulted? entries name value? default = defaulted? entries' name value? default := by
  have heq := defaulted?_eq_bind (r := { name, initial := some v }) rfl hv
  exact (heq entries).trans ((congrArg (Option.bind · value?) h).trans (heq entries').symm)

theorem defaulted?_list_congr {q : Part}
    (h : (Part.listRule name q).SameReading format entries entries') :
    defaulted? entries name (Value.listOf? (q.read? format)) [] =
      defaulted? entries' name (Value.listOf? (q.read? format)) [] := by
  have hempty : Value.listOf? (q.read? format) (.list []) = some [] := rfl
  have heq := defaulted?_eq_bind (r := Part.listRule name q) rfl hempty
  exact (heq entries).trans (h.trans (heq entries').symm)

end Congruence

/-- A record is read through its members alone. -/
theorem Part.read?_table_congr {format : Format} {p : Part}
    {entries entries' : List (String × Value)}
    (h : ∀ r ∈ p.rules, r.SameReading format entries entries') :
    p.read? format (.table entries) = p.read? format (.table entries') := by
  have hmembers : ∀ entries names,
      (Value.table entries).members? format false names = some entries := fun _ _ => rfl
  have hzero : Value.byte? (.int 0) = some 0 := rfl
  have hflags : Value.word? (.int 0) = some 0 := rfl
  have hnull : Value.optional? Value.text? .null = some none := rfl
  cases p with
  | schema =>
    obtain ⟨hobject, hmessage, -⟩ := by simpa only [rules, List.forall_mem_cons] using h
    change Definitions.ofValue? format _ = Definitions.ofValue? format _
    have hobjects := defaulted?_list_congr hobject
    have hmessages := defaulted?_list_congr hmessage
    dsimp only [Data, read?] at hobjects hmessages
    simp only [Definitions.ofValue?, hmembers, Option.bind_eq_bind, Option.bind_some, hobjects,
      hmessages]
  | object =>
    obtain ⟨htype, hadd, -⟩ := by simpa only [rules, List.forall_mem_cons] using h
    change Object.ofValue? format _ = Object.ofValue? format _
    have hfields := defaulted?_list_congr hadd
    dsimp only [Data, read?] at hfields
    simp only [Object.ofValue?, hmembers, Option.bind_eq_bind, Option.bind_some,
      required?_congr htype, hfields]
  | message =>
    obtain ⟨hid, htype, hword, hversion, -⟩ := by simpa only [rules, List.forall_mem_cons] using h
    change Message.ofValue? format _ = Message.ofValue? format _
    have hversions := defaulted?_list_congr hversion
    dsimp only [Data, read?] at hversions
    simp only [Message.ofValue?, hmembers, Option.bind_eq_bind, Option.bind_some,
      required?_congr hid, required?_congr htype, defaulted?_congr hword hflags, hversions]
  | delta =>
    obtain ⟨hmajor, hminor, hadd, hremove, hchange, -⟩ := by
      simpa only [rules, List.forall_mem_cons] using h
    change VersionDelta.ofValue? format _ = VersionDelta.ofValue? format _
    have hadds := defaulted?_list_congr hadd
    have hremoves := defaulted?_list_congr hremove
    have hchanges := defaulted?_list_congr hchange
    dsimp only [Data, read?] at hadds hremoves hchanges
    simp only [VersionDelta.ofValue?, hmembers, Option.bind_eq_bind, Option.bind_some,
      required?_congr hmajor, defaulted?_congr hminor hzero, hadds, hremoves, hchanges]
  | addition =>
    obtain ⟨hname, htype, hdefault, -⟩ := by simpa only [rules, List.forall_mem_cons] using h
    change FieldSpec.ofValue? format _ = FieldSpec.ofValue? format _
    simp only [FieldSpec.ofValue?, hmembers, Option.bind_eq_bind, Option.bind_some,
      required?_congr hname, required?_congr htype, defaulted?_congr hdefault hnull]
  | removal =>
    obtain ⟨hname, hdefault, -⟩ := by simpa only [rules, List.forall_mem_cons] using h
    change RemoveSpec.ofValue? format _ = RemoveSpec.ofValue? format _
    simp only [RemoveSpec.ofValue?, hmembers, Option.bind_eq_bind, Option.bind_some,
      required?_congr hname, defaulted?_congr hdefault hnull]
  | change =>
    obtain ⟨hname, htype, -⟩ := by simpa only [rules, List.forall_mem_cons] using h
    change ChangeSpec.ofValue? format _ = ChangeSpec.ofValue? format _
    simp only [ChangeSpec.ofValue?, hmembers, Option.bind_eq_bind, Option.bind_some,
      required?_congr hname, required?_congr htype]

/-! ### Regular documents -/

/-- No record of a document has one of its members twice. -/
inductive Regular : Part → Value → Prop
  | table {p : Part} {entries : List (String × Value)}
      (hunique : ∀ r ∈ p.rules, (entries.map Prod.fst).count r.name ≤ 1)
      (hitems : ∀ r ∈ p.rules, ∀ q, r.items = some q →
        ∀ items, (r.name, .list items) ∈ entries → ∀ v ∈ items, Regular q v) :
      Regular p (.table entries)

/-! ### One change -/

/-- A regular record holds a member exactly if it stands among its entries. -/
theorem Regular.lookup_eq_some_iff {p : Part} {entries : List (String × Value)}
    (h : Regular p (.table entries)) {r : MemberRule} (hr : r ∈ p.rules) (v : Value) :
    entries.lookup r.name = some v ↔ (r.name, v) ∈ entries := by
  obtain ⟨hunique, -⟩ := h
  exact lookup_eq_some_iff_mem (hunique r hr) v

/-- Regular records with the same entries for a member hold the same for it. -/
theorem Regular.settled_eq {p : Part} {entries entries' : List (String × Value)}
    (h : Regular p (.table entries)) (h' : Regular p (.table entries')) {r : MemberRule}
    (hr : r ∈ p.rules) (hmem : ∀ v, (r.name, v) ∈ entries ↔ (r.name, v) ∈ entries') :
    r.settled entries = r.settled entries' := by
  have hlookup : entries.lookup r.name = entries'.lookup r.name := by
    ext v
    rw [h.lookup_eq_some_iff hr, h'.lookup_eq_some_iff hr, hmem]
  rw [MemberRule.settled, MemberRule.settled, hlookup]

/-- A member that is taken out of a regular record is not there any more. -/
theorem Regular.lookup_eq_none {p : Part} {before after : List (String × Value)} {r : MemberRule}
    {v : Value} (h : Regular p (.table (before ++ (r.name, v) :: after))) (hr : r ∈ p.rules) :
    (before ++ after).lookup r.name = none := by
  obtain ⟨hunique, -⟩ := h
  have hcount := hunique r hr
  rw [List.map_append, List.map_cons, List.count_append, List.count_cons_self] at hcount
  have hnone : ((before ++ after).map Prod.fst).count r.name = 0 := by
    rw [List.map_append, List.count_append]
    omega
  refine Option.eq_none_iff_forall_ne_some.2 fun u hu => List.count_eq_zero.1 hnone ?_
  exact List.mem_map_of_mem ((lookup_eq_some_iff_mem (by omega) u).1 hu)

/-- A change leaves a document regular. -/
theorem Rewords.regular {p : Part} {v v' : Value} (h : Rewords p v v') (hv : Regular p v) :
    Regular p v' := by
  induction h with
  | permute hperm =>
    obtain ⟨hunique, hitems⟩ := hv
    refine .table (fun r hr => ?_) fun r hr q hq items hmem => ?_
    · rw [← (hperm.map Prod.fst).count_eq]
      exact hunique r hr
    · exact hitems r hr q hq items (hperm.mem_iff.2 hmem)
  | extend before after name v hname =>
    obtain ⟨hunique, hitems⟩ := hv
    refine .table (fun r hr => ?_) fun r hr q hq items hmem => ?_
    · rw [List.map_append, List.map_cons, List.count_append,
        List.count_cons_of_ne (hname r hr).symm, ← List.count_append, ← List.map_append]
      exact hunique r hr
    · refine hitems r hr q hq items ?_
      simpa [hname r hr] using hmem
  | @drop p before after r hr v hinitial =>
    obtain ⟨hunique, hitems⟩ := hv
    have hsub : (before ++ after).Sublist (before ++ (r.name, v) :: after) :=
      (List.sublist_cons_self _ after).append_left before
    refine .table (fun r' hr' => ?_) fun r' hr' q hq items hmem => ?_
    · exact Nat.le_trans ((hsub.map Prod.fst).count_le r'.name) (hunique r' hr')
    · exact hitems r' hr' q hq items (hsub.subset hmem)
  | @inside p q before after r hr hq left right v v' hchange ih =>
    obtain ⟨hunique, hitems⟩ := hv
    have hold : ∀ w ∈ left ++ v :: right, Regular q w := hitems r hr q hq _ (by simp)
    refine .table (fun r' hr' => ?_) fun r' hr' q' hq' items hmem => ?_
    · simpa using hunique r' hr'
    · have hcases : items = left ++ v' :: right ∧ r'.name = r.name ∨
          (r'.name, .list items) ∈ before ++ after := by
        simp only [List.mem_append, List.mem_cons, Prod.mk.injEq, Value.list.injEq] at hmem ⊢
        tauto
      obtain ⟨rfl, hname⟩ | hmem := hcases
      · -- the list that was changed, in which one record is new
        obtain rfl := Part.eq_of_name_eq hr' hr hname
        obtain rfl : q' = q := Option.some.inj (hq'.symm.trans hq)
        intro w hw
        obtain hw | rfl | hw : w ∈ left ∨ w = v' ∨ w ∈ right := by simpa using hw
        · exact hold w (by simp [hw])
        · exact ih (hold v (by simp))
        · exact hold w (by simp [hw])
      · refine hitems r' hr' q' hq' items ?_
        simp only [List.mem_append, List.mem_cons] at hmem ⊢
        tauto

/-- A change does not change what is read. -/
theorem Rewords.read?_eq {p : Part} {v v' : Value} (h : Rewords p v v') (hv : Regular p v)
    (format : Format) : p.read? format v' = p.read? format v := by
  have hv' := h.regular hv
  induction h with
  | permute hperm =>
    refine Part.read?_table_congr fun r hr => MemberRule.sameReading_of_settled_eq ?_
    exact hv'.settled_eq hv hr fun _ => hperm.symm.mem_iff
  | extend before after name v hname =>
    refine Part.read?_table_congr fun r hr => MemberRule.sameReading_of_settled_eq ?_
    exact hv'.settled_eq hv hr fun u => by simp [hname r hr]
  | @drop p before after r hr v hinitial =>
    refine Part.read?_table_congr fun r' hr' => MemberRule.sameReading_of_settled_eq ?_
    by_cases hname : r'.name = r.name
    · obtain rfl := Part.eq_of_name_eq hr' hr hname
      have hold := (hv.lookup_eq_some_iff hr v).2 (by simp)
      rw [MemberRule.settled, MemberRule.settled, hold, hv.lookup_eq_none hr, hinitial]
      rfl
    · exact hv'.settled_eq hv hr' fun u => by simp [hname]
  | @inside p q before after r hr hq left right v v' hchange ih =>
    have hinner : Regular q v := by
      obtain ⟨-, hitems⟩ := hv
      exact hitems r hr q hq (left ++ v :: right) (by simp) v (by simp)
    have hitem := ih hinner (hchange.regular hinner)
    refine Part.read?_table_congr fun r' hr' => ?_
    by_cases hname : r'.name = r.name
    · obtain rfl := Part.eq_of_name_eq hr' hr hname
      have hold := (hv.lookup_eq_some_iff hr (.list (left ++ v :: right))).2 (by simp)
      have hnew := (hv'.lookup_eq_some_iff hr (.list (left ++ v' :: right))).2 (by simp)
      simp only [MemberRule.SameReading, hq, MemberRule.settled, hold, hnew, Option.some_or,
        Option.bind_some, Value.listOf?, List.mapM_append, List.mapM_cons, hitem]
    · refine MemberRule.sameReading_of_settled_eq ?_
      exact hv'.settled_eq hv hr' fun u => by simp [hname]

/-! ### Any number of changes -/

/-- Any number of changes of a document do not change what is read. -/
theorem Regular.read?_of_rewords {p : Part} {v v' : Value} (hv : Regular p v)
    (h : Relation.ReflTransGen (Rewords p) v v') (format : Format) :
    Regular p v' ∧ p.read? format v' = p.read? format v := by
  induction h with
  | refl => exact ⟨hv, rfl⟩
  | tail _ hstep ih =>
    obtain ⟨hregular, heq⟩ := ih
    exact ⟨hstep.regular hregular, (hstep.read?_eq hregular format).trans heq⟩

end WireSchema
