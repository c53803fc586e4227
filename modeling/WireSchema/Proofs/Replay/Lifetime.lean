import Mathlib.Data.List.Induction
import WireSchema.Schema.History

/-!
# The lifetime of a field in a sequence of operations

What a replay leaves of a field is told here from the sequence of operations alone, by the
positions of those that mention the field: whether it is live, the type it has, the operation that
made its slot and the index of that slot. Each of these has one lemma that says how it changes
when an operation is put at the end of the sequence.

## Main definitions

* `Message.operations`: the operations of a history, in order.
* `Operation.lastMention?`, `Operation.IsLive`: the last operation that mentions a field, and
  whether it leaves the field live.
* `Operation.lastType?`: the type of the last addition or change.
* `Operation.standingAdd?`: the position of the last addition, if no removal follows it.
* `Operation.firstChange?`: the position of the first change after the last removal.
* `Operation.creation?`, `Operation.wireIndex`: the position of the operation that made the slot
  of a field, and the index of the slot.

## Main results

* `Operation.isLive_iff`: the live fields are those whose slot was made by some operation.
* `Operation.creation?_concat`, `Operation.wireIndex_concat`, `Operation.lastType?_concat`: the
  effect of one more operation.
-/

namespace WireSchema

/-- The operations of a message's history, in the order of the replay. -/
def Message.operations (m : Message) : List Operation :=
  m.versions.flatMap VersionDelta.operations

theorem Message.map_operation_history (m : Message) :
    m.history.map Step.operation = m.operations := by
  simp [history, operations, List.map_flatMap, VersionDelta.steps, Function.comp_def]

namespace Operation

/-! ### Operations on one field -/

/-- Does the operation add some field? -/
def isAdd : Operation → Bool
  | add .. => true
  | _ => false

/-- Does the operation remove some field? -/
def isRemove : Operation → Bool
  | remove _ => true
  | _ => false

/-- Does the operation add the field? -/
def adds (name : String) : Operation → Bool
  | add n _ => n == name
  | _ => false

/-- Does the operation remove the field? -/
def removes (name : String) : Operation → Bool
  | remove n => n == name
  | _ => false

/-- Does the operation change the field? -/
def changes (name : String) : Operation → Bool
  | change n _ => n == name
  | _ => false

/-- The type that the operation gives to the field. -/
def typeFor? (name : String) : Operation → Option String
  | add n type => if n = name then some type else none
  | remove _ => none
  | change n type => if n = name then some type else none

theorem exists_eq_change_of_changes {name : String} {op : Operation} (h : op.changes name) :
    ∃ type, op = change name type := by
  cases op with
  | change n type => exact ⟨type, by rw [show n = name by simpa [changes] using h]⟩
  | _ => simp [changes] at h

/-! ### Positions in a sequence -/

/-- The position of the last operation that satisfies `p`. -/
def lastPosition? (p : Operation → Bool) : List Operation → Option Nat
  | [] => none
  | op :: ops =>
    match lastPosition? p ops with
    | some i => some (i + 1)
    | none => if p op then some 0 else none

/-- The last operation that mentions a field. -/
def lastMention? (ops : List Operation) (name : String) : Option Operation :=
  ops.findRev? (·.name == name)

/-- A field is live when an operation mentions it and the last one that does so is no removal. -/
def IsLive (ops : List Operation) (name : String) : Prop :=
  ∃ op, lastMention? ops name = some op ∧ op.isRemove = false

/-- The type of the last addition or change of a field. -/
def lastType? (ops : List Operation) (name : String) : Option String :=
  ops.findSomeRev? (typeFor? name)

/-- The position of the last addition of a field, if no removal of the field follows it. -/
def standingAdd? (ops : List Operation) (name : String) : Option Nat :=
  (lastPosition? (adds name) ops).filter fun i => !(ops.drop (i + 1)).any (removes name)

/-- The position after the last removal of a field, and 0 if there is no removal. -/
def afterRemoval (ops : List Operation) (name : String) : Nat :=
  ((lastPosition? (removes name) ops).map (· + 1)).getD 0

/-- The position of the first change of a field after its last removal. -/
def firstChange? (ops : List Operation) (name : String) : Option Nat :=
  ((ops.drop (afterRemoval ops name)).findIdx? (changes name)).map (· + afterRemoval ops name)

/-- The position of the operation that made the slot of a field: its last addition, if no removal
follows, or else the first change after its last removal. -/
def creation? (ops : List Operation) (name : String) : Option Nat :=
  (standingAdd? ops name).or (firstChange? ops name)

/-- The index of the slot of a field: the number of additions before its last addition, if no
removal follows, and 0 otherwise. -/
def wireIndex (ops : List Operation) (name : String) : Nat :=
  match standingAdd? ops name with
  | some i => (ops.take i).countP isAdd
  | none => 0

/-- The order in which two fields go over the wire: by the indices of their slots and, where
these are equal, by the operations that made the slots. -/
def Precedes (ops : List Operation) (a b : String) : Prop :=
  wireIndex ops a < wireIndex ops b ∨
    wireIndex ops a = wireIndex ops b ∧ creation? ops a < creation? ops b

theorem precedes_asymm {ops : List Operation} {a b : String} (hab : Precedes ops a b) :
    ¬ Precedes ops b a := by
  rintro (hlt | ⟨heq, hlt⟩)
  · rcases hab with hlt' | ⟨heq', -⟩ <;> omega
  · rcases hab with hlt' | ⟨-, hlt'⟩
    · omega
    · cases ha : creation? ops a <;> cases hb : creation? ops b <;> simp [ha, hb] at hlt hlt'
      omega

instance (ops : List Operation) : Std.Irrefl (Precedes ops) :=
  ⟨fun _ h => precedes_asymm h h⟩

instance (ops : List Operation) : Std.Antisymm (Precedes ops) :=
  ⟨fun _ _ hab hba => absurd hba (precedes_asymm hab)⟩

/-! ### One more operation -/

variable (ops : List Operation) (op : Operation) (name : String)

theorem lastPosition?_concat (p : Operation → Bool) :
    lastPosition? p (ops ++ [op]) = if p op then some ops.length else lastPosition? p ops := by
  induction ops with
  | nil => simp [lastPosition?]
  | cons o ops ih =>
    simp only [List.cons_append, lastPosition?, ih]
    split_ifs <;> simp

variable {ops} in
theorem lastPosition?_lt {p : Operation → Bool} {i : Nat} (h : lastPosition? p ops = some i) :
    i < ops.length := by
  induction ops using List.reverseRecOn with
  | nil => simp [lastPosition?] at h
  | append_singleton ops o ih =>
    rw [lastPosition?_concat] at h
    rw [List.length_append, List.length_singleton]
    split_ifs at h
    · have := Option.some.inj h
      omega
    · have := ih h
      omega

theorem lastMention?_concat :
    lastMention? (ops ++ [op]) name =
      if op.name = name then some op else lastMention? ops name := by
  simp only [lastMention?, List.findRev?_eq_find?_reverse, List.reverse_append,
    List.reverse_singleton, List.singleton_append, List.find?_cons]
  by_cases h : op.name = name
  · simp [h]
  · rw [if_neg h, show (op.name == name) = false by simpa using h]

theorem lastType?_concat :
    lastType? (ops ++ [op]) name = (op.typeFor? name).or (lastType? ops name) := by
  simp only [lastType?, List.findSomeRev?_eq_findSome?_reverse, List.reverse_append,
    List.reverse_singleton, List.singleton_append, List.findSome?_cons]
  cases op.typeFor? name <;> rfl

theorem standingAdd?_concat :
    standingAdd? (ops ++ [op]) name =
      if op.adds name then some ops.length
      else if op.removes name then none else standingAdd? ops name := by
  unfold standingAdd?
  rw [lastPosition?_concat]
  split_ifs with hadd hremove
  · simp
  · rw [Option.filter_eq_none_iff]
    intro i hi
    simp [List.drop_append_of_le_length (show i + 1 ≤ ops.length from lastPosition?_lt hi), hremove]
  · cases hlast : lastPosition? (adds name) ops with
    | none => rfl
    | some i =>
      have hle : i + 1 ≤ ops.length := lastPosition?_lt hlast
      rw [Option.filter_some, Option.filter_some, List.drop_append_of_le_length hle]
      simp [hremove]

theorem afterRemoval_le : afterRemoval ops name ≤ ops.length := by
  unfold afterRemoval
  cases hlast : lastPosition? (removes name) ops with
  | none => simp
  | some i => exact lastPosition?_lt hlast

theorem afterRemoval_concat :
    afterRemoval (ops ++ [op]) name =
      if op.removes name then ops.length + 1 else afterRemoval ops name := by
  unfold afterRemoval
  rw [lastPosition?_concat]
  split_ifs <;> rfl

theorem firstChange?_concat :
    firstChange? (ops ++ [op]) name =
      if op.removes name then none
      else (firstChange? ops name).or (if op.changes name then some ops.length else none) := by
  have hle := afterRemoval_le ops name
  unfold firstChange?
  rw [afterRemoval_concat]
  split_ifs with hremove hchange
  · simp
  · rw [List.drop_append_of_le_length hle, List.findIdx?_append, Option.map_or]
    simp [List.findIdx?_cons, hchange, hle]
  · rw [List.drop_append_of_le_length hle, List.findIdx?_append, Option.map_or]
    simp [List.findIdx?_cons, hchange]

theorem creation?_concat :
    creation? (ops ++ [op]) name =
      if op.adds name then some ops.length
      else if op.removes name then none
      else (creation? ops name).or (if op.changes name then some ops.length else none) := by
  unfold creation?
  rw [standingAdd?_concat, firstChange?_concat]
  split_ifs <;> simp

theorem wireIndex_concat :
    wireIndex (ops ++ [op]) name =
      if op.adds name then ops.countP isAdd
      else if op.removes name then 0 else wireIndex ops name := by
  unfold wireIndex
  rw [standingAdd?_concat]
  split_ifs
  · simp
  · rfl
  · cases hstand : standingAdd? ops name with
    | none => rfl
    | some i =>
      have hlt := lastPosition?_lt (Option.eq_some_of_filter_eq_some hstand)
      simp [List.take_append_of_le_length (Nat.le_of_lt hlt)]

variable {op name} in
/-- An operation that does not mention a field leaves it as it was. -/
theorem concat_of_name_ne (h : op.name ≠ name) :
    creation? (ops ++ [op]) name = creation? ops name ∧
      wireIndex (ops ++ [op]) name = wireIndex ops name ∧
      lastType? (ops ++ [op]) name = lastType? ops name := by
  rw [creation?_concat, wireIndex_concat, lastType?_concat]
  cases op <;> simp_all [Operation.name, adds, removes, changes, typeFor?]

variable {ops name} in
theorem creation?_lt {i : Nat} (h : creation? ops name = some i) : i < ops.length := by
  induction ops using List.reverseRecOn with
  | nil => simp [creation?, standingAdd?, firstChange?, lastPosition?] at h
  | append_singleton ops op ih =>
    rw [creation?_concat] at h
    rw [List.length_append, List.length_singleton]
    split_ifs at h with hadd hremove hchange
    · have := Option.some.inj h
      omega
    · rcases Option.or_eq_some_iff.1 h with hold | ⟨-, hnew⟩
      · exact Nat.lt_succ_of_lt (ih hold)
      · have := Option.some.inj hnew
        omega
    · rw [Option.or_none] at h
      exact Nat.lt_succ_of_lt (ih h)

variable {ops name} in
theorem wireIndex_of_creation?_none (h : creation? ops name = none) : wireIndex ops name = 0 := by
  rw [wireIndex, (Option.or_eq_none_iff.1 h).1]

variable {ops name} in
/-- A change of a live field keeps its slot. -/
theorem creation?_concat_change {n type : String} (h : (creation? ops name).isSome) :
    creation? (ops ++ [.change n type]) name = creation? ops name := by
  obtain ⟨i, hi⟩ := Option.isSome_iff_exists.1 h
  rw [creation?_concat, hi]
  simp [adds, removes]

/-! ### The live fields -/

/-- The live fields are those whose slot was made by some operation. -/
theorem isLive_iff : IsLive ops name ↔ (creation? ops name).isSome := by
  induction ops using List.reverseRecOn with
  | nil => simp [IsLive, lastMention?, creation?, standingAdd?, firstChange?, lastPosition?]
  | append_singleton ops op ih =>
    by_cases hname : op.name = name
    · rw [IsLive, lastMention?_concat, if_pos hname, creation?_concat]
      cases op with
      | add n type => simp [isRemove, adds, show n = name from hname]
      | remove n => simp [isRemove, adds, removes, show n = name from hname]
      | change n type => simp [isRemove, adds, removes, changes, show n = name from hname]
    · rw [IsLive, lastMention?_concat, if_neg hname, (concat_of_name_ne ops hname).1]
      exact ih

instance : Decidable (IsLive ops name) :=
  decidable_of_iff _ (isLive_iff ops name).symm

variable {ops name} in
theorem lastType?_isSome (h : (creation? ops name).isSome) : (lastType? ops name).isSome := by
  induction ops using List.reverseRecOn with
  | nil => simp [creation?, standingAdd?, firstChange?, lastPosition?] at h
  | append_singleton ops op ih =>
    by_cases hname : op.name = name
    · rw [creation?_concat] at h
      rw [lastType?_concat, Option.isSome_or]
      cases op with
      | add n type => simp [typeFor?, show n = name from hname]
      | remove n => simp [adds, removes, show n = name from hname] at h
      | change n type => simp [typeFor?, show n = name from hname]
    · obtain ⟨hcreation, -, htype⟩ := concat_of_name_ne ops hname
      rw [htype]
      exact ih (hcreation ▸ h)

/-! ### A longer sequence -/

section Append

variable {before after : List Operation} {n : String} {i : Nat}

/-- Operations that neither add nor remove a live field keep its slot. -/
theorem append_of_untouched (hlive : (creation? before n).isSome)
    (h : ∀ op ∈ after, op.adds n = false ∧ op.removes n = false) :
    creation? (before ++ after) n = creation? before n ∧
      wireIndex (before ++ after) n = wireIndex before n := by
  induction after using List.reverseRecOn with
  | nil => simp
  | append_singleton after op ih =>
    obtain ⟨hadd, hremove⟩ := h op (by simp)
    obtain ⟨hcreation, hindex⟩ := ih fun o ho => h o (List.mem_append_left _ ho)
    obtain ⟨i, hi⟩ := Option.isSome_iff_exists.1 hlive
    rw [← List.append_assoc, creation?_concat, wireIndex_concat, hcreation, hindex, hi]
    simp [hadd, hremove]

/-- Where the last addition of a field lies in the first part of a sequence, the second part
neither adds nor removes the field. -/
theorem standingAdd?_of_append (h : standingAdd? (before ++ after) n = some i)
    (hi : i < before.length) :
    standingAdd? before n = some i ∧
      ∀ op ∈ after, op.adds n = false ∧ op.removes n = false := by
  induction after using List.reverseRecOn with
  | nil => simpa using h
  | append_singleton after op ih =>
    rw [← List.append_assoc, standingAdd?_concat] at h
    split_ifs at h with hadd hremove
    · have := Option.some.inj h
      rw [List.length_append] at this
      omega
    · obtain ⟨hbefore, hafter⟩ := ih h
      refine ⟨hbefore, fun o ho => ?_⟩
      rcases List.mem_append.1 ho with hold | hnew
      · exact hafter o hold
      · rw [List.mem_singleton.1 hnew]
        exact ⟨by simpa using hadd, by simpa using hremove⟩

theorem wireIndex_le_countP (ops : List Operation) (n : String) :
    wireIndex ops n ≤ ops.countP isAdd := by
  unfold wireIndex
  split
  · exact (List.take_sublist _ _).countP_le
  · exact Nat.zero_le _

/-- A field whose last addition stands, by the position of that addition. -/
theorem of_standingAdd? {ops : List Operation} (h : standingAdd? ops n = some i) :
    creation? ops n = some i ∧ wireIndex ops n = (ops.take i).countP isAdd := by
  simp [creation?, wireIndex, h]

theorem lastPosition?_of_standingAdd? {ops : List Operation} (h : standingAdd? ops n = some i) :
    lastPosition? (adds n) ops = some i :=
  Option.eq_some_of_filter_eq_some h

/-- Two fields whose last additions stand go over the wire in the order of these additions. -/
theorem lt_of_precedes {ops : List Operation} {a b : String} {j : Nat}
    (ha : standingAdd? ops a = some i) (hb : standingAdd? ops b = some j)
    (h : Precedes ops a b) : i < j := by
  obtain ⟨hca, hia⟩ := of_standingAdd? ha
  obtain ⟨hcb, hib⟩ := of_standingAdd? hb
  rw [Precedes, hca, hcb, hia, hib, Option.some_lt_some] at h
  rcases h with hlt | ⟨-, hlt⟩
  · by_contra hle
    have hpre : ops.take j <+: ops.take i := List.take_prefix_take_left (Nat.le_of_not_lt hle)
    have := hpre.sublist.countP_le (p := isAdd)
    omega
  · exact hlt

end Append

end Operation

end WireSchema
