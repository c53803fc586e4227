import Mathlib.Data.Finset.Card
import WireSchema.Proofs.Emission.Collapse

/-!
# Messages that reuse a tag

While the messages of a schema are planned, a message whose tag was taken before leaves a warning in
the log, which names the latest message that took it. The plan itself can be asked for the tags that
two or more messages have. Both say the same: the tags of the warnings are the tags with two or more
messages, and there is one warning for each message but the first of its tag.

## Main definitions

* `warnings`: the warnings of a log.
* `Record.reusedTag?`: the tag that a record reports.
* `IsLatestWithTag`: the latest message that has the tag of another one.
* `RemembersLatest`, `Counts`: what the two maps of a plan hold.
* `repeats`: the items of a list that occurred before.

## Main results

* `RemembersLatest.insert`, `RemembersLatest.seenAfter`: a map of names stays up to date while
  messages are planned.
* `Counts.update`, `Counts.foldl`: a map of counts stays up to date while tags are counted.
* `reportsReuse_messageLog`: the warning that a message leaves.
* `reusedTags_messageLogs`: the reported tags are the repeated ones.
* `Plan.tag_reuse_reported`: the log and the plan report the same tags.
-/

namespace WireSchema

/-! ### Repeated items -/

section Repeats

variable {α : Type} [DecidableEq α]

/-- The items of a list that occurred before, among the items `seen` or earlier in the list. -/
def repeats (seen : List α) : List α → List α
  | [] => []
  | a :: l => (if a ∈ seen then [a] else []) ++ repeats (a :: seen) l

theorem mem_repeats_iff {seen l : List α} {x : α} :
    x ∈ repeats seen l ↔ x ∈ l ∧ (x ∈ seen ∨ 1 < l.count x) := by
  induction l generalizing seen with
  | nil => simp [repeats]
  | cons a l ih =>
    rw [repeats, List.mem_append, ih, List.mem_cons, List.mem_cons]
    by_cases hx : x = a
    · subst hx
      by_cases hseen : x ∈ seen <;> simp [hseen]
    · rw [List.count_cons_of_ne (Ne.symm hx)]
      split_ifs <;> simp [hx]

/-- Every item is repeated or the first of its kind. -/
theorem length_repeats_add (seen l : List α) :
    (repeats seen l).length + (l.toFinset \ seen.toFinset).card = l.length := by
  induction l generalizing seen with
  | nil => simp [repeats]
  | cons a l ih =>
    have hrest := ih (a :: seen)
    rw [repeats, List.length_append, List.length_cons]
    rw [List.toFinset_cons] at hrest ⊢
    by_cases hseen : a ∈ seen
    · have hinsert : insert a seen.toFinset = seen.toFinset :=
        Finset.insert_eq_of_mem (List.mem_toFinset.2 hseen)
      rw [hinsert] at hrest
      rw [if_pos hseen, List.length_singleton, Finset.insert_sdiff_of_mem _ (by simpa using hseen)]
      omega
    · have hsplit : insert a l.toFinset \ seen.toFinset =
          insert a (l.toFinset \ insert a seen.toFinset) := by
        ext x
        by_cases hx : x = a <;> simp [hx, hseen]
      rw [if_neg hseen, List.length_nil, hsplit, Finset.card_insert_of_notMem (by simp)]
      omega

end Repeats

/-! ### Logs -/

/-- The warnings of a log. -/
def warnings (log : List Record) : List Record :=
  log.filter (·.level = .warn)

/-- The tag that a record reports as taken before. -/
def Record.reusedTag? : Record → Option UInt8
  | tagReused _ tag _ => some tag
  | _ => none

theorem warnings_append (log log' : List Record) :
    warnings (log ++ log') = warnings log ++ warnings log' :=
  List.filter_append ..

theorem Record.isSome_reusedTag? (r : Record) : r.reusedTag?.isSome = (r.level = .warn : Bool) := by
  cases r <;> rfl

theorem length_warnings (log : List Record) :
    (warnings log).length = (log.filterMap Record.reusedTag?).length := by
  rw [warnings, ← List.countP_eq_length_filter, List.length_filterMap_eq_countP]
  simp only [Record.isSome_reusedTag?]

theorem filterMap_reusedTag?_warnings (log : List Record) :
    (warnings log).filterMap Record.reusedTag? = log.filterMap Record.reusedTag? := by
  rw [warnings, List.filterMap_filter]
  refine List.filterMap_congr fun r _ => ?_
  cases r <;> rfl

namespace Logged

variable {ε α β : Type} {x : Logged ε α}

theorem log_bind {a : α} (h : x.outcome = .ok a) (f : α → Logged ε β) :
    (x >>= f).log = x.log ++ (f a).log := by
  obtain ⟨log, outcome⟩ := x
  cases h
  rfl

theorem warnings_bind {f : α → Logged ε β} (hx : warnings x.log = [])
    (hf : ∀ a, warnings (f a).log = []) : warnings (x >>= f).log = [] := by
  cases h : x.outcome with
  | ok a => rw [log_bind h, warnings_append, hx, hf, List.append_nil]
  | error e =>
    obtain ⟨log, outcome⟩ := x
    cases h
    exact hx

end Logged

/-! ### The warnings of a message -/

/-- `e` is the latest of the messages `before` that has the tag of `m`. -/
def IsLatestWithTag (before : List Message) (m e : Message) : Prop :=
  ∃ start rest, before = start ++ e :: rest ∧ e.id = m.id ∧ ∀ x ∈ rest, x.id ≠ m.id

/-- The records for the message `m` after the messages `before` have one warning if its tag was
taken before, which names the latest message that has it, and otherwise none. -/
def ReportsReuse (before : List Message) (m : Message) (records : List Record) : Prop :=
  (∀ e ∈ before, e.id ≠ m.id) ∧ warnings records = [] ∨
    ∃ e, IsLatestWithTag before m e ∧ warnings records = [.tagReused m.name m.id e.name]

/-- The map has the name of the latest message of each tag that the messages `earlier` have, the
last of which comes first. -/
def RemembersLatest (seen : TagMap String) (earlier : List Message) : Prop :=
  ∀ tag, seen.get? tag = (earlier.find? (·.id == tag)).map (·.name)

theorem remembersLatest_empty : RemembersLatest .empty [] := fun _ => rfl

theorem RemembersLatest.insert {seen : TagMap String} {earlier : List Message}
    (h : RemembersLatest seen earlier) (m : Message) :
    RemembersLatest (seen.insert m.id m.name).2 (m :: earlier) := by
  intro tag
  rw [TagMap.insert, TagMap.get?_update]
  by_cases htag : tag = m.id
  · rw [if_pos htag, List.find?_cons_of_pos (by simp [htag]), Option.map_some]
  · rw [if_neg htag, List.find?_cons_of_neg (by simpa using Ne.symm htag), h]

/-- The map after messages are planned. -/
def seenAfter (seen : TagMap String) (ms : List Message) : TagMap String :=
  ms.foldl (fun seen m => (seen.insert m.id m.name).2) seen

theorem RemembersLatest.seenAfter {seen : TagMap String} {earlier : List Message}
    (h : RemembersLatest seen earlier) (ms : List Message) :
    RemembersLatest (seenAfter seen ms) (ms.reverse ++ earlier) := by
  induction ms generalizing seen earlier with
  | nil => exact h
  | cons m ms ih =>
    rw [List.reverse_cons, List.append_assoc]
    exact ih (h.insert m)

/-- The records for a message that is planned where the map is `seen`. -/
def messageLog (s : GenerateSettings) (seen : TagMap String) (m : Message) : List Record :=
  (recordReuse (seen.get? m.id) m).log ++ (PlannedMessage.make s m).log

variable {s : GenerateSettings}

/-- Nothing but a reused tag is a warning. -/
theorem warnings_make (m : Message) : warnings (PlannedMessage.make s m).log = [] := by
  refine Logged.warnings_bind ?_ fun r => ?_
  · cases s.policy with
    | zeroIndex => simp [warnings, Message.resolveWith, Logged.mapError, Record.level]
    | reject => rfl
  · split_ifs <;> rfl

theorem reportsReuse_messageLog {seen : TagMap String} {before : List Message}
    (h : RemembersLatest seen before.reverse) (m : Message) :
    ReportsReuse before m (messageLog s seen m) := by
  rw [ReportsReuse, messageLog, warnings_append, warnings_make, List.append_nil, h]
  cases hfind : before.reverse.find? (·.id == m.id) with
  | none =>
    refine .inl ⟨fun e he => ?_, rfl⟩
    simpa using List.find?_eq_none.1 hfind e (List.mem_reverse.2 he)
  | some e =>
    obtain ⟨hid, rest, start, hsplit, hrest⟩ := List.find?_eq_some_iff_append.1 hfind
    refine .inr ⟨e, ⟨start.reverse, rest.reverse, ?_, by simpa using hid, fun x hx => ?_⟩, rfl⟩
    · rw [← before.reverse_reverse, hsplit]
      simp
    · simpa using hrest x (List.mem_reverse.1 hx)

theorem filterMap_messageLog {seen : TagMap String} {earlier : List Message}
    (h : RemembersLatest seen earlier) (m : Message) :
    (messageLog s seen m).filterMap Record.reusedTag? =
      if m.id ∈ earlier.map (·.id) then [m.id] else [] := by
  have hmake : (PlannedMessage.make s m).log.filterMap Record.reusedTag? = [] := by
    rw [← filterMap_reusedTag?_warnings, warnings_make, List.filterMap_nil]
  have hmem : m.id ∈ earlier.map (·.id) ↔ (earlier.find? (·.id == m.id)).isSome := by
    simp [List.find?_isSome]
  rw [messageLog, List.filterMap_append, hmake, List.append_nil, h]
  simp only [hmem]
  cases earlier.find? (·.id == m.id) <;> rfl

/-! ### The warnings of a plan -/

/-- The records for messages that are planned in order where the map is `seen` at first. -/
def messageLogs (s : GenerateSettings) (seen : TagMap String) : List Message → List (List Record)
  | [] => []
  | m :: ms => messageLog s seen m :: messageLogs s (seen.insert m.id m.name).2 ms

/-- Messages that can be planned are logged one by one. -/
theorem log_planMessages {seen : TagMap String} {ms : List Message} {pms : List PlannedMessage}
    (h : (planMessages s seen ms).outcome = .ok pms) :
    (planMessages s seen ms).log = (messageLogs s seen ms).flatten := by
  induction ms generalizing seen pms with
  | nil => rfl
  | cons m ms ih =>
    rw [planMessages] at h ⊢
    simp only [Logged.outcome_bind, outcome_recordReuse] at h
    obtain ⟨-, -, h⟩ := bind_eq_ok_iff.1 h
    obtain ⟨planned, hplanned, h⟩ := bind_eq_ok_iff.1 h
    obtain ⟨others, hothers, -⟩ := bind_eq_ok_iff.1 h
    rw [Logged.log_bind (outcome_recordReuse _ m), Logged.log_bind hplanned,
      Logged.log_bind hothers, ih hothers]
    simp [messageLogs, messageLog, TagMap.insert, Pure.pure, Logged.pure]

theorem length_messageLogs (seen : TagMap String) (ms : List Message) :
    (messageLogs s seen ms).length = ms.length := by
  induction ms generalizing seen with
  | nil => rfl
  | cons m ms ih => rw [messageLogs, List.length_cons, List.length_cons, ih]

theorem getElem?_messageLogs {seen : TagMap String} {ms : List Message} {j : Nat} {m : Message}
    (h : ms[j]? = some m) :
    (messageLogs s seen ms)[j]? = some (messageLog s (seenAfter seen (ms.take j)) m) := by
  induction ms generalizing seen j with
  | nil => simp at h
  | cons m' ms ih =>
    cases j with
    | zero =>
      obtain rfl : m' = m := by simpa using h
      rfl
    | succ j =>
      rw [List.getElem?_cons_succ] at h
      rw [messageLogs, List.getElem?_cons_succ, ih h, List.take_succ_cons]
      rfl

/-- The tags that are reported are those that occurred before. -/
theorem reusedTags_messageLogs {seen : TagMap String} {earlier : List Message}
    (h : RemembersLatest seen earlier) (ms : List Message) :
    (messageLogs s seen ms).flatten.filterMap Record.reusedTag? =
      repeats (earlier.map (·.id)) (ms.map (·.id)) := by
  induction ms generalizing seen earlier with
  | nil => rfl
  | cons m ms ih =>
    rw [messageLogs, List.flatten_cons, List.filterMap_append, filterMap_messageLog h,
      ih (h.insert m)]
    rfl

/-! ### Counted tags -/

/-- The map has the number of times that each tag occurs, and no entry for the others. -/
def Counts (counts : TagMap Nat) (tags : List UInt8) : Prop :=
  ∀ tag, counts.get? tag = if tags.count tag = 0 then none else some (tags.count tag)

theorem counts_empty : Counts .empty [] := fun _ => rfl

theorem Counts.update {counts : TagMap Nat} {tags : List UInt8} (h : Counts counts tags)
    (tag : UInt8) : Counts (counts.update tag fun n => n.getD 0 + 1) (tag :: tags) := by
  intro other
  rw [TagMap.get?_update, h, h]
  by_cases hother : other = tag
  · subst hother
    rw [if_pos rfl, List.count_cons_self, if_neg (Nat.succ_ne_zero _)]
    split_ifs with hzero
    · rw [Option.getD_none, hzero]
    · rw [Option.getD_some]
  · rw [if_neg hother, List.count_cons_of_ne (Ne.symm hother)]

theorem Counts.foldl {counts : TagMap Nat} {tags : List UInt8} (h : Counts counts tags)
    (ms : List PlannedMessage) :
    Counts (ms.foldl (fun counts m => counts.update m.id fun n => n.getD 0 + 1) counts)
      ((ms.map (·.id)).reverse ++ tags) := by
  induction ms generalizing counts tags with
  | nil => exact h
  | cons m ms ih =>
    rw [List.map_cons, List.reverse_cons, List.append_assoc]
    exact ih (h.update m.id)

namespace Plan

theorem counts_tagCounts (p : Plan) : Counts p.tagCounts (p.messages.map (·.id)).reverse := by
  have hcounts := counts_empty.foldl p.messages
  rwa [List.append_nil] at hcounts

theorem pairwise_duplicateTags (p : Plan) : p.duplicateTags.Pairwise (· < ·) := by
  refine List.pairwise_filterMap.2 (p.tagCounts.ascending.imp ?_)
  rintro ⟨key, count⟩ ⟨key', count'⟩ hlt tag htag tag' htag'
  split_ifs at htag htag'
  obtain rfl := Option.some.inj htag
  obtain rfl := Option.some.inj htag'
  exact hlt

theorem mem_duplicateTags_iff {p : Plan} {tag : UInt8} :
    tag ∈ p.duplicateTags ↔ 1 < (p.messages.map (·.id)).count tag := by
  have hcounts := counts_tagCounts p tag
  rw [List.count_reverse] at hcounts
  rw [duplicateTags, List.mem_filterMap]
  constructor
  · rintro ⟨⟨key, count⟩, hmem, hcount⟩
    split_ifs at hcount with hlt
    obtain rfl := Option.some.inj hcount
    rw [TagMap.mem_entries_iff, hcounts] at hmem
    split_ifs at hmem
    rwa [Option.some.inj hmem]
  · intro hlt
    rw [if_neg (by omega)] at hcounts
    exact ⟨(tag, _), (TagMap.mem_entries_iff _ _ _).2 hcounts, if_pos hlt⟩

/-- The log of a plan is the log of its messages. -/
theorem log_make {d : Definitions} {p : Plan} (h : (Plan.make d s).outcome = .ok p) :
    (Plan.make d s).log = (messageLogs s .empty d.messages).flatten := by
  rw [Plan.make, Logged.outcome_bind] at h
  obtain ⟨messages, hmessages, -⟩ := bind_eq_ok_iff.1 h
  rw [Plan.make, Logged.log_bind hmessages, log_planMessages hmessages]
  exact List.append_nil _

/-- **The log and the plan report the same reused tags.** A plan that can be made has an entry for
each object and each message of the schema, in the order of their declarations. The log is made of
the records for each message, which have a warning if and only if an earlier message has the same
tag, and the warning names the latest of them. The tags of the warnings are the duplicate tags of
the plan. These ascend strictly and are the tags that two or more messages have. All messages but
the first of each tag are warned about. -/
theorem tag_reuse_reported (d : Definitions) (s : GenerateSettings) {p : Plan}
    (h : (Plan.make d s).outcome = .ok p) :
    p.objects = d.objects.map (PlannedObject.make s.matching) ∧
      List.Forall₂ (fun m pm => (PlannedMessage.make s m).outcome = .ok pm ∧ pm.id = m.id)
        d.messages p.messages ∧
      (∃ segments : List (List Record), (Plan.make d s).log = segments.flatten ∧
        segments.length = d.messages.length ∧
        ∀ j m segment, d.messages[j]? = some m → segments[j]? = some segment →
          ReportsReuse (d.messages.take j) m segment) ∧
      (∀ tag, tag ∈ (warnings (Plan.make d s).log).filterMap Record.reusedTag? ↔
        tag ∈ p.duplicateTags) ∧
      p.duplicateTags.Pairwise (· < ·) ∧
      (∀ tag, tag ∈ p.duplicateTags ↔ 2 ≤ (d.messages.map (·.id)).count tag) ∧
      (warnings (Plan.make d s).log).length + (d.messages.map (·.id)).toFinset.card =
        d.messages.length := by
  have hplan := h
  rw [outcome_make] at hplan
  obtain ⟨messages, hmessages, rfl⟩ := map_eq_ok_iff.1 hplan
  have hentries : List.Forall₂ (fun m pm => (PlannedMessage.make s m).outcome = .ok pm ∧
      pm.id = m.id) d.messages messages :=
    (mapM_eq_ok_iff.1 hmessages).imp fun m pm hm =>
      ⟨hm, by rw [(PlannedMessage.make_eq_ok hm).2]⟩
  have htags : d.messages.map (·.id) = messages.map (·.id) :=
    map_eq_map_of_forall₂ hentries fun m pm hm => hm.2.symm
  have hreused := reusedTags_messageLogs (s := s) remembersLatest_empty d.messages
  have hduplicate : ∀ tag, tag ∈ Plan.duplicateTags ⟨d.objects.map (PlannedObject.make s.matching),
      messages⟩ ↔ 2 ≤ (d.messages.map (·.id)).count tag := fun tag => by
    rw [mem_duplicateTags_iff, htags]
    rfl
  refine ⟨rfl, hentries, ⟨messageLogs s .empty d.messages, log_make h, length_messageLogs _ _, ?_⟩,
    fun tag => ?_, pairwise_duplicateTags _, hduplicate, ?_⟩
  · intro j m segment hm hsegment
    rw [getElem?_messageLogs hm] at hsegment
    obtain rfl := Option.some.inj hsegment
    refine reportsReuse_messageLog ?_ m
    simpa using remembersLatest_empty.seenAfter (d.messages.take j)
  · rw [hduplicate, filterMap_reusedTag?_warnings, log_make h, hreused, mem_repeats_iff]
    simp only [List.map_nil, List.not_mem_nil, false_or]
    exact and_iff_right_of_imp fun hcount => List.count_pos_iff.1 (Nat.zero_lt_of_lt hcount)
  · have hlength := length_repeats_add [] (d.messages.map (·.id))
    rw [List.toFinset_nil, Finset.sdiff_empty, List.length_map] at hlength
    rw [length_warnings, log_make h, hreused]
    exact hlength

/-- Six messages with three tags, two of which are taken more than once. -/
def relaySchema : Definitions where
  messages := [
    { id := 0x10, name := "Ping" }, { id := 0x20, name := "Pong" }, { id := 0x10, name := "Echo" },
    { id := 0x30, name := "Quit" }, { id := 0x10, name := "Knock" },
    { id := 0x20, name := "Reply" }]

/-- A message that is the third with its tag is reported with the second one. -/
theorem tag_reuse_reported_relaySchema :
    ∃ p, (Plan.make relaySchema {}).outcome = .ok p ∧
      warnings (Plan.make relaySchema {}).log =
        [.tagReused "Echo" 0x10 "Ping", .tagReused "Knock" 0x10 "Echo",
         .tagReused "Reply" 0x20 "Pong"] ∧
      (∀ tag, tag ∈ p.duplicateTags ↔ tag ∈ [0x10, 0x20]) ∧
      (warnings (Plan.make relaySchema {}).log).length + 3 = 6 := by
  obtain ⟨p, hplan⟩ : ∃ p, (Plan.make relaySchema {}).outcome = .ok p :=
    ⟨_, make_of_inOrder rfl (by decide)⟩
  have hwarnings : warnings (Plan.make relaySchema {}).log =
      [.tagReused "Echo" 0x10 "Ping", .tagReused "Knock" 0x10 "Echo",
       .tagReused "Reply" 0x20 "Pong"] := by decide +kernel
  obtain ⟨-, -, -, htags, -, -, hlength⟩ := tag_reuse_reported relaySchema {} hplan
  refine ⟨p, hplan, hwarnings, fun tag => ?_, hlength⟩
  rw [← htags, hwarnings]
  simp [Record.reusedTag?]

end Plan

end WireSchema
