import WireSchema.Proofs.Schema.Rewording

/-!
# Schemas are read back from their documents

A schema is read back from the document that was written for it, and from every other document that
says the same.

## Main results

* `Definitions.ofValue?_toValue`, and the same for the parts of a schema: what was written is read
  back.
* `Definitions.regular_toValue`: the document of a schema is regular.
* `Definitions.ofValue?_of_rewords`: a schema is read from every rewording of its document.
-/

namespace WireSchema

/-! ### What is written is read back -/

theorem Value.byte?_int_toNat (b : UInt8) : Value.byte? (.int b.toNat) = some b := by
  have hlt := b.toNat_lt
  rw [Value.byte?, if_pos (by omega), Int.toNat_natCast, UInt8.ofNat_toNat]

theorem Value.word?_int_toNat (w : UInt32) : Value.word? (.int w.toNat) = some w := by
  have hlt := w.toNat_lt
  rw [Value.word?, if_pos (by omega), Int.toNat_natCast, UInt32.ofNat_toNat]

theorem Value.listOf?_map {α : Type} {item? : Value → Option α} {write : α → Value}
    (h : ∀ x, item? (write x) = some x) (xs : List α) :
    Value.listOf? item? (.list (xs.map write)) = some xs := by
  rw [Value.listOf?]
  induction xs with
  | nil => rfl
  | cons x xs ih => simp [List.mapM_cons, h, ih]

theorem FieldSpec.ofValue?_toValue (format : Format) (f : FieldSpec) :
    ofValue? format f.toValue = some f := by
  obtain ⟨name, type, default⟩ := f
  cases default <;> rfl

theorem RemoveSpec.ofValue?_toValue (format : Format) (r : RemoveSpec) :
    ofValue? format r.toValue = some r := by
  obtain ⟨name, default⟩ := r
  cases default <;> rfl

theorem ChangeSpec.ofValue?_toValue (format : Format) (c : ChangeSpec) :
    ofValue? format c.toValue = some c := rfl

theorem VersionDelta.ofValue?_toValue (format : Format) (d : VersionDelta) :
    ofValue? format d.toValue = some d := by
  have hadd := Value.listOf?_map (FieldSpec.ofValue?_toValue format) d.add
  have hremove := Value.listOf?_map (RemoveSpec.ofValue?_toValue format) d.remove
  have hchange := Value.listOf?_map (ChangeSpec.ofValue?_toValue format) d.change
  simp [ofValue?, toValue, Value.members?, required?, defaulted?, List.lookup_cons,
    Value.byte?_int_toNat, hadd, hremove, hchange]

theorem Object.ofValue?_toValue (format : Format) (o : Object) :
    ofValue? format o.toValue = some o := by
  have hfields := Value.listOf?_map (FieldSpec.ofValue?_toValue format) o.fields
  simp [ofValue?, toValue, Value.members?, required?, defaulted?, List.lookup_cons, Value.text?,
    hfields]

theorem Message.ofValue?_toValue (format : Format) (m : Message) :
    ofValue? format m.toValue = some m := by
  have hversions := Value.listOf?_map (VersionDelta.ofValue?_toValue format) m.versions
  simp [ofValue?, toValue, Value.members?, required?, defaulted?, List.lookup_cons, Value.text?,
    Value.byte?_int_toNat, Value.word?_int_toNat, hversions]

theorem Definitions.ofValue?_toValue (format : Format) (d : Definitions) :
    ofValue? format d.toValue = some d := by
  have hobjects := Value.listOf?_map (Object.ofValue?_toValue format) d.objects
  have hmessages := Value.listOf?_map (Message.ofValue?_toValue format) d.messages
  simp [ofValue?, toValue, Value.members?, defaulted?, List.lookup_cons, hobjects, hmessages]

/-! ### What is written is regular -/

theorem FieldSpec.regular_toValue (f : FieldSpec) : Regular .addition f.toValue := by
  obtain ⟨name, type, default⟩ := f
  refine .table ?_ (by simp [Part.rules])
  cases default <;> simp [Part.rules, defaultMember]

theorem RemoveSpec.regular_toValue (r : RemoveSpec) : Regular .removal r.toValue := by
  obtain ⟨name, default⟩ := r
  refine .table ?_ (by simp [Part.rules])
  cases default <;> simp [Part.rules, defaultMember]

theorem ChangeSpec.regular_toValue (c : ChangeSpec) : Regular .change c.toValue :=
  .table (by simp [Part.rules]) (by simp [Part.rules])

theorem VersionDelta.regular_toValue (d : VersionDelta) : Regular .delta d.toValue :=
  .table (by simp [Part.rules, Part.listRule])
    (by simp [Part.rules, Part.listRule, FieldSpec.regular_toValue, RemoveSpec.regular_toValue,
      ChangeSpec.regular_toValue])

theorem Object.regular_toValue (o : Object) : Regular .object o.toValue :=
  .table (by simp [Part.rules, Part.listRule])
    (by simp [Part.rules, Part.listRule, FieldSpec.regular_toValue])

theorem Message.regular_toValue (m : Message) : Regular .message m.toValue :=
  .table (by simp [Part.rules, Part.listRule])
    (by simp [Part.rules, Part.listRule, VersionDelta.regular_toValue])

theorem Definitions.regular_toValue (d : Definitions) : Regular .schema d.toValue :=
  .table (by simp [Part.rules, Part.listRule])
    (by simp [Part.rules, Part.listRule, Object.regular_toValue, Message.regular_toValue])

/-! ### Other documents of a schema -/

/-- **A schema is read back from every document that says the same.** It is read back from the
document that was written for it. So it is after the members of any record in the document were
permuted, after members that a record does not have were added anywhere, and after members were
dropped that had the value they have when they are left out, in any number and order. -/
theorem Definitions.ofValue?_of_rewords (format : Format) (d : Definitions) :
    ofValue? format d.toValue = some d ∧
      ∀ v, Relation.ReflTransGen (Rewords .schema) d.toValue v → ofValue? format v = some d := by
  have hwritten := d.ofValue?_toValue format
  refine ⟨hwritten, fun v h => ?_⟩
  obtain ⟨-, heq⟩ := d.regular_toValue.read?_of_rewords h format
  exact Eq.trans heq hwritten

/-- A message with one field. -/
def hail : Message where
  id := 7
  name := "Hail"
  versions := [{ major := 1, add := [{ name := "to", type := "int" }] }]

/-- Another record for the history of `hail`. -/
def hailDelta : Value :=
  .table
    [("major", .int 1), ("add", .list [.table [("type", .str "int"), ("name", .str "to")]]),
     ("remove", .list []), ("change", .list [])]

/-- Another record for `hail`, with a colour that messages do not have. -/
def hailRecord : Value :=
  .table
    [("type", .str "Hail"), ("id", .int 7), ("colour", .list [.null]),
     ("version", .list [hailDelta])]

theorem rewords_hailDelta {d : VersionDelta} (h : d ∈ hail.versions) :
    Relation.ReflTransGen (Rewords .delta) d.toValue hailDelta := by
  obtain rfl := List.mem_singleton.1 h
  have hminor := Rewords.drop (p := .delta) [("major", .int 1)]
    [("add", .list [.table [("name", .str "to"), ("type", .str "int")]]), ("remove", .list []),
     ("change", .list [])] (List.mem_cons_of_mem _ List.mem_cons_self) rfl
  have hfield := Rewords.inside (p := .delta) [("major", .int 1)]
    [("remove", .list []), ("change", .list [])]
    (List.mem_cons_of_mem _ (List.mem_cons_of_mem _ List.mem_cons_self)) rfl [] []
    (.permute (.swap ("type", .str "int") ("name", .str "to") []))
  exact .head hminor (.single hfield)

theorem rewords_hailRecord : Relation.ReflTransGen (Rewords .message) hail.toValue hailRecord := by
  have hflags := Rewords.drop (p := .message) [("id", .int 7), ("type", .str "Hail")]
    [("version", .list (hail.versions.map VersionDelta.toValue))]
    (List.mem_cons_of_mem _ (List.mem_cons_of_mem _ List.mem_cons_self)) rfl
  have hswap := Rewords.permute (p := .message) (.swap ("type", .str "Hail") ("id", .int 7)
    [("version", .list (hail.versions.map VersionDelta.toValue))])
  have hcolour := Rewords.extend (p := .message) [("type", .str "Hail"), ("id", .int 7)]
    [("version", .list (hail.versions.map VersionDelta.toValue))] "colour" (.list [.null])
    (by decide)
  have hdelta := (rewords_hailDelta List.mem_cons_self).lift _ fun _ _ h =>
    Rewords.inside (p := .message)
      [("type", .str "Hail"), ("id", .int 7), ("colour", .list [.null])] []
      (List.mem_cons_of_mem _ (List.mem_cons_of_mem _ (List.mem_cons_of_mem _ List.mem_cons_self)))
      rfl [] [] h
  exact .head hflags (.head hswap (.head hcolour hdelta))

/-- `hail` is read from a document that is written in another way. -/
theorem Definitions.ofValue?_of_rewords_hail :
    Relation.ReflTransGen (Rewords .schema) (toValue { messages := [hail] })
        (.table [("message", .list [hailRecord])]) ∧
      ofValue? .json (.table [("message", .list [hailRecord])]) = some { messages := [hail] } := by
  have hobjects := Rewords.drop (p := .schema) [] [("message", .list [hail.toValue])]
    List.mem_cons_self rfl
  have hmessage := rewords_hailRecord.lift _ fun _ _ h => Rewords.inside (p := .schema) [] []
    (List.mem_cons_of_mem _ List.mem_cons_self) rfl [] [] h
  have hrewords := Relation.ReflTransGen.head hobjects hmessage
  exact ⟨hrewords, (ofValue?_of_rewords .json _).2 _ hrewords⟩

end WireSchema
