import WireSchema.Proofs.Header.Lines
import WireSchema.Proofs.Scan

/-!
# The wire layout of an emitted C++ class

What a routine reads from or writes to the wire is read off from its lines: the test of a scalar
read, the test of a count read with the member that the count goes to, the first line of a loop,
and the calls that read or write a nested value. The routine that reads and the routine that writes
the fields of a class show the same events, with the same places, loops and accesses. Every field
contributes one group of events, in the order of the fields, and the writing routine of a message
has one event before them, the write of its header.

## Main definitions

* `Header.WireEvent`: an event.
* `Header.readEvents`, `Header.writeEvents`: the events of the lines of a routine that reads, and
  of one that writes.
* `Header.wireGroup`: the events of a field.

## Main results

* `Header.scan_readOf`, `Header.scan_writeOf`: both routines show the group of one field.
* `Header.wire_layout`: both routines show the groups of all fields in order.
-/

namespace WireSchema.Header

open Block

/-- What a routine does with the wire. Places, loops and accesses are kept as they are written. -/
inductive WireEvent
  /-- The header of a message is written. -/
  | header
  /-- A scalar is read into or written from a place. -/
  | scalar (place : String)
  /-- A one-byte count is read into or written from a place. -/
  | count (place : String)
  /-- A loop over items begins with the line `head`. -/
  | loop (head : String)
  /-- A nested value is read or written through `access`. -/
  | recurse (access : String)
  deriving DecidableEq, Repr

/-! ### Events read off from lines -/

/-- Is the line the first line of a loop? -/
def isLoop (line : String) : Bool :=
  (between? "for (" ") \x7b" line).isSome

/-- The test of the read of a count. -/
def countTest : String := "if (!serializer->read(&__len)) \x7b"

/-- The middle of the test of the read of a scalar; the same place stands before and after it. -/
def scalarTestMiddle : String := " == 0 && !serializer->read(&"

/-- The place into which a scalar is read where it is not set yet. -/
def scalarTest? (line : String) : Option String :=
  (between? "if (" ")) \x7b" line).bind fun test =>
    let place := String.ofList
      (test.toList.take ((test.toList.length - scalarTestMiddle.toList.length) / 2))
    if test = place ++ scalarTestMiddle ++ place then some place else none

/-- The event of a line of a routine that reads. The member of a count is found in the first line
after its test that assigns the count. -/
def readEvent? (line : String) (after : List String) : Option WireEvent :=
  if line = countTest then (after.findSome? (between? "" " = __len;")).map .count
  else if isLoop line then some (.loop line)
  else
    match between? "if (!" "deserialize(serializer)) \x7b" line with
    | some access => some (.recurse access)
    | none => (scalarTest? line).map .scalar

/-- The first line of a loop over as many items as `place` holds. -/
def loopOver (place : String) : String :=
  "for (unsigned char __i = 0; __i < " ++ place ++ "; __i++) \x7b"

/-- The event of a line of a routine that writes. What is written just before a loop over it is a
count. -/
def writeEvent? (line : String) (after : List String) : Option WireEvent :=
  if line = "Message::serialize(serializer, stream);" then some .header
  else if isLoop line then some (.loop line)
  else
    match between? "serializer->write(" ", stream);" line with
    | some place =>
      some (if after.head? = some (loopOver place) then .count place else .scalar place)
    | none => (between? "" "serialize(serializer, stream);" line).map .recurse

/-- The events of the lines of a routine that reads. -/
def readEvents (lines : List Line) : List WireEvent :=
  scan readEvent? (lines.map Line.text)

/-- The events of the lines of a routine that writes. -/
def writeEvents (lines : List Line) : List WireEvent :=
  scan writeEvent? (lines.map Line.text)

/-- The events of a field. -/
def wireGroup (f : PlannedField) : List WireEvent :=
  let place := "this->" ++ f.name
  let counted := "this->__" ++ f.name ++ "_len"
  match f.kind with
  | .builtin => [.scalar place]
  | .array =>
    [.count counted, .loop (loopOver counted),
     .recurse (accessText (place ++ "[__i]") f.type.depth)]
  | .pointer => [.recurse (accessText place f.type.depth)]
  | .nested => [.recurse (place ++ ".")]

/-! ### The lines of routines that read -/

theorem loopOver_eq (place : String) :
    loopOver place = "for (unsigned char __i = 0; __i < " ++ place ++ "; __i++) \x7b" := rfl

theorem loopHead_eq (count : Expr) : loopHead count = loopOver count.text := rfl

theorem whenHead_eq (condition : Expr) :
    whenHead condition = "if (" ++ condition.text ++ ") \x7b" := rfl

theorem isLoop_loopOver (place : String) : isLoop (loopOver place) = true := by
  rw [isLoop, Option.isSome_iff_exists]
  refine ⟨"unsigned char __i = 0; __i < " ++ place ++ "; __i++", between?_eq_some_iff.2 ?_⟩
  exact String.toList_injective (by simp [loopOver_eq])

theorem scalarTest?_eq_some (place : String) :
    scalarTest? ("if (" ++ (place ++ scalarTestMiddle ++ place) ++ ")) \x7b") = some place := by
  let test := place ++ scalarTestMiddle ++ place
  have hlength : (test.toList.length - scalarTestMiddle.toList.length) / 2 =
      place.toList.length := by
    simp only [test, String.toList_append, List.length_append]
    omega
  have htake : test.toList.take place.toList.length = place.toList := by
    simp only [test, String.toList_append, List.append_assoc, List.take_left]
  rw [scalarTest?, between?_eq_some_iff.2 rfl]
  change (if test = String.ofList (test.toList.take _) ++ scalarTestMiddle ++ _ then _ else _) = _
  rw [hlength, htake, String.ofList_toList, if_pos rfl]

/-- A line that begins neither a test nor a loop shows no event. -/
theorem readEvent?_eq_none {line : String} (htest : ¬ "if (".toList <+: line.toList)
    (hloop : ¬ "for (".toList <+: line.toList) (after : List String) :
    readEvent? line after = none := by
  have hcount : line ≠ countTest := by
    rintro rfl
    exact htest (by decide)
  have hcall : ¬ "if (!".toList <+: line.toList := fun h =>
    htest ((List.prefix_append "if (".toList ['!']).trans h)
  rw [readEvent?, if_neg hcount, isLoop, between?_eq_none_of_opening hloop, if_neg (by simp),
    between?_eq_none_of_opening hcall, scalarTest?, between?_eq_none_of_opening htest]
  rfl

theorem readEvent?_this {line s : String} (h : line = "this->" ++ s) (after : List String) :
    readEvent? line after = none :=
  readEvent?_eq_none (by simp [h]) (by simp [h]) after

theorem readEvent?_closing (after : List String) : readEvent? "\x7d" after = none :=
  readEvent?_eq_none (by decide) (by decide) after

theorem mem_texts_failure {rollback : Bool} {line : String} (h : line ∈ (failure rollback).texts) :
    line = "this->dispose();" ∨ line = "return false;" := by
  cases rollback with
  | false => exact .inr (List.mem_singleton.1 h)
  | true => exact (List.mem_cons.1 h).imp_right List.mem_singleton.1

/-- The end of a failed read shows no event. -/
theorem scan_failure (rollback : Bool) (after : List String) :
    scan readEvent? ((failure rollback).texts ++ after) = scan readEvent? after := by
  refine scan_append_of_none fun l hl after => ?_
  rcases mem_texts_failure hl with rfl | rfl <;>
    exact readEvent?_eq_none (by decide) (by decide) after

/-- The test for a value that is not set shows no event. -/
theorem readEvent?_unset {e : Expr} {place : String} (he : e.text = "this->" ++ place)
    (after : List String) : readEvent? (whenHead (.isUnset e)) after = none := by
  have hline : whenHead (.isUnset e) = "if (this->" ++ place ++ " == 0) \x7b" :=
    String.toList_injective (by simp [whenHead_eq, Expr.text, he])
  have hcount : "if (this->" ++ place ++ " == 0) \x7b" ≠ countTest := fun h => by
    simpa [countTest] using congrArg String.toList h
  rw [hline, readEvent?, if_neg hcount, isLoop, between?_eq_none_of_opening (by simp),
    if_neg (by simp), between?_eq_none_of_opening (by simp), scalarTest?,
    between?_eq_none_of_closing (by simp)]
  rfl

theorem readEvent?_loop (count : Expr) (after : List String) :
    readEvent? (loopHead count) after = some (.loop (loopOver count.text)) := by
  have hcount : loopOver count.text ≠ countTest := fun h => by
    simpa [loopOver_eq, countTest] using congrArg String.toList h
  rw [loopHead_eq, readEvent?, if_neg hcount, if_pos (isLoop_loopOver _)]

theorem readEvent?_recurse {e : Expr} {access : String}
    (he : e.text = access ++ "deserialize(serializer)") (after : List String) :
    readEvent? (whenHead (.negation e)) after = some (.recurse access) := by
  have hline : whenHead (.negation e) = "if (!" ++ access ++ "deserialize(serializer)) \x7b" :=
    String.toList_injective (by simp [whenHead_eq, Expr.text, he])
  have hcount : "if (!" ++ access ++ "deserialize(serializer)) \x7b" ≠ countTest := fun h => by
    simpa [countTest] using congrArg (List.reverse ∘ String.toList) h
  rw [hline, readEvent?, if_neg hcount, isLoop, between?_eq_none_of_opening (by simp),
    if_neg (by simp), between?_eq_some_iff.2 rfl]

/-- The test of the read of a scalar, as it is written. -/
theorem readEvent?_scalar (f : PlannedField) (after : List String) :
    readEvent?
        (whenHead (.both (.isUnset (target f))
          (.negation (.onPointer serializer "read" [.address (target f)])))) after =
      some (.scalar ("this->" ++ f.name)) := by
  let place := "this->" ++ f.name
  have hline : whenHead (.both (.isUnset (target f))
      (.negation (.onPointer serializer "read" [.address (target f)]))) =
        "if (" ++ (place ++ scalarTestMiddle ++ place) ++ ")) \x7b" :=
    String.toList_injective (by
      simp [whenHead_eq, Expr.text, argTexts, target, place, scalarTestMiddle, serializer,
        parenthesize, Expr.needsParens])
  have hcount : "if (" ++ (place ++ scalarTestMiddle ++ place) ++ ")) \x7b" ≠ countTest :=
    fun h => by simpa [countTest, place] using congrArg String.toList h
  rw [hline, readEvent?, if_neg hcount, isLoop, between?_eq_none_of_opening (by simp),
    if_neg (by simp), between?_eq_none_of_opening (by simp [place]), scalarTest?_eq_some]
  rfl

/-! ### Reading one field -/

theorem text_deserializeCall {e : Expr} (he : e.needsParens = false) (depth : Nat) :
    (deserializeCall e depth).text = accessText e.text depth ++ "deserialize(serializer)" := by
  rw [deserializeCall, text_invoke he]
  exact String.toList_injective (by simp [argTexts, serializer, Expr.text])

theorem text_countOf (f : PlannedField) :
    (countOf f).text = "this->__" ++ f.name ++ "_len" :=
  String.toList_injective (by simp [countOf, countName, Expr.text])

theorem text_itemOf (f : PlannedField) : (itemOf f).text = "this->" ++ (f.name ++ "[__i]") := by
  rw [itemOf, target, Expr.text, Expr.text, String.append_assoc]

/-- A nested read shows the access to its value. -/
theorem scan_orFail {e : Expr} (he : e.needsParens = false) (rollback : Bool) (depth : Nat)
    (after : List String) :
    scan readEvent? ((orFail rollback (deserializeCall e depth)).texts ++ after) =
      .recurse (accessText e.text depth) :: scan readEvent? after := by
  rw [orFail, Block.texts_when, List.cons_append,
    scan_cons_of_some (readEvent?_recurse (text_deserializeCall he depth) _), List.append_assoc,
    scan_failure, Block.texts_done]
  exact congrArg _ (scan_cons_of_none (readEvent?_closing _))

/-- The allocation of a chain of pointers shows no event. -/
theorem scan_allocateAt {e : Expr} {place : String} (he : e.text = "this->" ++ place)
    (t : FieldType) (after : List String) :
    scan readEvent? ((allocateAt e t).texts ++ after) = scan readEvent? after := by
  have hassign : Simple.text (.assign e (allocate t.base t.depth)) =
      "this->" ++ (place ++ " = " ++ (allocate t.base t.depth).text ++ ";") := by
    simp only [Simple.text, he, String.append_assoc]
  rw [allocateAt, Block.texts_when, List.cons_append, scan_cons_of_none (readEvent?_unset he _),
    Block.texts_ofList, List.map_singleton, List.append_assoc, List.singleton_append,
    scan_cons_of_none (readEvent?_this hassign _)]
  exact scan_cons_of_none (readEvent?_closing _)

/-- The member of a count is found after the test of its read. -/
theorem findSome?_count (rollback : Bool) (array member : String) (after : List String) :
    ((failure rollback).texts ++ "\x7d" :: (array ++ "[__len]();") ::
      (member ++ " = __len;") :: after).findSome? (between? "" " = __len;") = some member := by
  have hfailure : (failure rollback).texts.findSome? (between? "" " = __len;") = none := by
    refine List.findSome?_eq_none_iff.2 fun l hl => ?_
    rcases mem_texts_failure hl with rfl | rfl <;> exact between?_eq_none_of_closing (by decide)
  have hclosing : between? "" " = __len;" "\x7d" = none :=
    between?_eq_none_of_closing (by decide)
  have harray : between? "" " = __len;" (array ++ "[__len]();") = none :=
    between?_eq_none_of_closing (by simp)
  have hmember : between? "" " = __len;" (member ++ " = __len;") = some member :=
    between?_eq_some_iff.2 (by rw [String.empty_append])
  simp only [List.findSome?_append, hfailure, Option.none_or, List.findSome?_cons, hclosing,
    harray, hmember]

theorem texts_readCount (rollback : Bool) (f : PlannedField) :
    (readCount rollback f).texts =
      whenHead (.isUnset (target f)) :: "unsigned char __len = 0;" :: countTest ::
        ((failure rollback).texts ++ "\x7d" ::
          ("this->" ++ (f.name ++ " = new " ++ f.type.reference) ++ "[__len]();") ::
          ((countOf f).text ++ " = __len;") :: ["\x7d"]) := by
  have htest : whenHead (.negation (.onPointer serializer "read" [.address (.name "__len")])) =
      countTest := by decide
  have hdeclare : Simple.text (.declare "unsigned char" "__len" zero) =
      "unsigned char __len = 0;" := by decide
  have harray : Simple.text
      (.assign (target f) (.constructArray f.type.reference (.name "__len"))) =
        "this->" ++ (f.name ++ " = new " ++ f.type.reference) ++ "[__len]();" :=
    String.toList_injective (by simp [Simple.text, Expr.text, target])
  have hcount : Simple.text (.assign (countOf f) (.name "__len")) =
      (countOf f).text ++ " = __len;" :=
    String.toList_injective (by simp [Simple.text, Expr.text])
  simp only [readCount, orFail, texts_when, texts_append, texts_ofList, List.map_cons,
    List.map_nil, texts_done, htest, hdeclare, harray, hcount, List.cons_append, List.nil_append,
    List.append_assoc]

/-- The guarded read of a count shows the member that the count goes to. -/
theorem scan_readCount (rollback : Bool) (f : PlannedField) (after : List String) :
    scan readEvent? ((readCount rollback f).texts ++ after) =
      .count (countOf f).text :: scan readEvent? after := by
  have hcount : ∀ lines, readEvent? countTest ((failure rollback).texts ++ "\x7d" ::
      ("this->" ++ (f.name ++ " = new " ++ f.type.reference) ++ "[__len]();") ::
      ((countOf f).text ++ " = __len;") :: lines) = some (.count (countOf f).text) :=
    fun lines => by rw [readEvent?, if_pos rfl, findSome?_count, Option.map_some]
  have hdeclare : ∀ lines, readEvent? "unsigned char __len = 0;" lines = none :=
    readEvent?_eq_none (by decide) (by decide)
  have hassign : (countOf f).text ++ " = __len;" = "this->" ++ (countName f.name ++ " = __len;") :=
    String.append_assoc
  simp only [texts_readCount, List.cons_append, List.append_assoc, List.nil_append]
  rw [scan_cons_of_none (readEvent?_unset rfl _), scan_cons_of_none (hdeclare _),
    scan_cons_of_some (hcount _), scan_failure, scan_cons_of_none (readEvent?_closing _),
    scan_cons_of_none (readEvent?_this String.append_assoc _),
    scan_cons_of_none (readEvent?_this hassign _),
    scan_cons_of_none (readEvent?_closing _)]

/-- The routine that reads shows the group of a field in its lines for the field. -/
theorem scan_readOf (rollback : Bool) (f : PlannedField) (after : List String) :
    scan readEvent? ((readOf rollback f).texts ++ after) =
      wireGroup f ++ scan readEvent? after := by
  cases hkind : f.kind with
  | builtin =>
    simp only [readOf, wireGroup, hkind, texts_when, List.cons_append, List.append_assoc,
      List.nil_append, texts_done]
    rw [scan_cons_of_some (readEvent?_scalar f _), scan_failure,
      scan_cons_of_none (readEvent?_closing _)]
  | array =>
    have hallocate : ∀ lines, scan readEvent?
        ((if 0 < f.type.depth then allocateAt (itemOf f) f.type else done).texts ++ lines) =
          scan readEvent? lines := fun lines => by
      split_ifs
      · exact scan_allocateAt (text_itemOf f) f.type lines
      · rfl
    simp only [readOf, readItem, texts_append, texts_each, List.append_assoc,
      List.cons_append, List.nil_append, texts_done, wireGroup, hkind]
    rw [scan_readCount, scan_cons_of_some (readEvent?_loop _ _), hallocate, scan_orFail rfl,
      scan_cons_of_none (readEvent?_closing _), text_countOf]
    rfl
  | pointer =>
    simp only [readOf, wireGroup, hkind, texts_append, List.append_assoc]
    rw [scan_allocateAt rfl, scan_orFail rfl]
    rfl
  | nested =>
    simp only [readOf, wireGroup, hkind]
    exact scan_orFail rfl rollback 0 after

/-! ### Writing one field -/

theorem writeEvent?_closing (after : List String) : writeEvent? "\x7d" after = none := by
  rw [writeEvent?, if_neg (by decide), isLoop, between?_eq_none_of_opening (by decide),
    if_neg (by simp), between?_eq_none_of_opening (by decide),
    between?_eq_none_of_closing (by decide)]
  rfl

theorem writeEvent?_loop (count : Expr) (after : List String) :
    writeEvent? (loopHead count) after = some (.loop (loopOver count.text)) := by
  have hheader : loopOver count.text ≠ "Message::serialize(serializer, stream);" := fun h => by
    simpa [loopOver_eq] using congrArg String.toList h
  rw [loopHead_eq, writeEvent?, if_neg hheader, if_pos (isLoop_loopOver _)]

/-- What is written is a count exactly if a loop over it follows. -/
theorem scan_writeScalar (e : Expr) (after : List String) :
    scan writeEvent? ((writeScalar e).texts ++ after) =
      (if after.head? = some (loopOver e.text) then .count e.text else .scalar e.text) ::
        scan writeEvent? after := by
  have hline : Simple.text (.run (.onPointer serializer "write" [e, stream])) =
      "serializer->write(" ++ e.text ++ ", stream);" :=
    String.toList_injective (by
      simp [Simple.text, Expr.text, argTexts, serializer, stream, parenthesize, Expr.needsParens])
  have hheader : "serializer->write(" ++ e.text ++ ", stream);" ≠
      "Message::serialize(serializer, stream);" := fun h => by
    simpa using congrArg String.toList h
  rw [writeScalar, texts_ofList, List.map_singleton, List.singleton_append, hline]
  refine scan_cons_of_some ?_
  rw [writeEvent?, if_neg hheader, isLoop, between?_eq_none_of_opening (by simp),
    if_neg (by simp), between?_eq_some_iff.2 rfl]

theorem text_serializeCall {e : Expr} (he : e.needsParens = false) (depth : Nat) :
    (serializeCall e depth).text =
      accessText e.text depth ++ "serialize(serializer, stream)" := by
  rw [serializeCall, text_invoke he]
  exact String.toList_injective (by simp [argTexts, serializer, stream, Expr.text])

/-- An access to a member begins with the member or with a parenthesis. -/
theorem toList_accessText (place : String) (depth : Nat) :
    ∃ c cs, (accessText ("this->" ++ place) depth).toList = c :: cs ∧ (c = 't' ∨ c = '(') := by
  match depth with
  | 0 => exact ⟨_, _, by simp [accessText]; rfl, .inl rfl⟩
  | 1 => exact ⟨_, _, by simp [accessText]; rfl, .inl rfl⟩
  | n + 2 => exact ⟨_, _, by simp [accessText]; rfl, .inr rfl⟩

/-- A nested write shows the access to its value. -/
theorem scan_serializeCall {e : Expr} {place : String} (he : e.needsParens = false)
    (hplace : e.text = "this->" ++ place) (depth : Nat) (after : List String) :
    scan writeEvent? ((ofList [.run (serializeCall e depth)]).texts ++ after) =
      .recurse (accessText e.text depth) :: scan writeEvent? after := by
  have hline : Simple.text (.run (serializeCall e depth)) =
      accessText e.text depth ++ "serialize(serializer, stream);" := by
    rw [Simple.text, text_serializeCall he, String.append_assoc]
    rfl
  obtain ⟨c, cs, haccess, hc⟩ := toList_accessText place depth
  rw [← hplace] at haccess
  have hheader : accessText e.text depth ++ "serialize(serializer, stream);" ≠
      "Message::serialize(serializer, stream);" := fun h => by
    have := congrArg String.toList h
    rcases hc with rfl | rfl <;> simp [haccess] at this
  have hwrite : ¬ "serializer->write(".toList <+:
      (accessText e.text depth ++ "serialize(serializer, stream);").toList := by
    rcases hc with rfl | rfl <;> simp [haccess]
  have hrecurse : between? "" "serialize(serializer, stream);"
      (accessText e.text depth ++ "serialize(serializer, stream);") =
        some (accessText e.text depth) :=
    between?_eq_some_iff.2 (by rw [String.empty_append])
  rw [texts_ofList, List.map_singleton, List.singleton_append, hline]
  refine scan_cons_of_some ?_
  rw [writeEvent?, if_neg hheader, isLoop, between?_eq_none_of_closing (by simp),
    if_neg (by simp), between?_eq_none_of_opening hwrite, hrecurse]
  rfl

/-- The routine that writes shows the group of a field in its lines for the field, as long as no
loop follows them. -/
theorem scan_writeOf (f : PlannedField) {after : List String}
    (hafter : ∀ place, after.head? ≠ some (loopOver place)) :
    scan writeEvent? ((writeOf f).texts ++ after) = wireGroup f ++ scan writeEvent? after := by
  cases hkind : f.kind with
  | builtin =>
    simp only [writeOf, wireGroup, hkind]
    rw [scan_writeScalar, if_neg (hafter _)]
    rfl
  | array =>
    simp only [writeOf, wireGroup, hkind, texts_append, texts_each, texts_done,
      List.append_assoc, List.cons_append, List.nil_append]
    rw [scan_writeScalar, List.head?_cons, if_pos (congrArg some (loopHead_eq _)),
      scan_cons_of_some (writeEvent?_loop _ _), scan_serializeCall rfl (text_itemOf f),
      scan_cons_of_none (writeEvent?_closing _), text_countOf]
    rfl
  | pointer =>
    simp only [writeOf, wireGroup, hkind]
    exact scan_serializeCall rfl rfl f.type.depth after
  | nested =>
    simp only [writeOf, wireGroup, hkind]
    exact scan_serializeCall rfl rfl 0 after

/-- The lines of a field in the routine that writes begin with a statement on one line. -/
theorem texts_writeOf_eq_cons (f : PlannedField) :
    ∃ e lines, (writeOf f).texts = Simple.text (.run e) :: lines := by
  cases hkind : f.kind <;> simp only [writeOf, hkind] <;> exact ⟨_, _, rfl⟩

theorem text_run_ne_loopOver (e : Expr) (place : String) :
    Simple.text (.run e) ≠ loopOver place := fun h => by
  simpa [Simple.text, loopOver_eq] using congrArg (List.reverse ∘ String.toList) h

/-- The lines of fields in the routine that writes do not begin with a loop. -/
theorem head?_concat_writeOf (fields : List PlannedField) (place : String) :
    (concat (fields.map writeOf)).texts.head? ≠ some (loopOver place) := by
  cases fields with
  | nil => simp [concat]
  | cons f fields =>
    obtain ⟨e, lines, hlines⟩ := texts_writeOf_eq_cons f
    rw [List.map_cons, concat, texts_append, hlines, List.cons_append, List.head?_cons]
    exact fun h => text_run_ne_loopOver e place (Option.some.inj h)

/-! ### Whole routines -/

/-- The events of all fields in the routine that writes. -/
theorem scan_concat_writeOf (fields : List PlannedField) :
    scan writeEvent? (concat (fields.map writeOf)).texts = fields.flatMap wireGroup := by
  induction fields with
  | nil => rfl
  | cons f fields ih =>
    rw [List.map_cons, concat, texts_append, scan_writeOf f (head?_concat_writeOf fields), ih,
      List.flatMap_cons]

theorem readEvents_deserialize (rollback : Bool) (fields : List PlannedField) (depth : Nat) :
    readEvents ((deserializeRoutine rollback fields).body.lines depth) =
      fields.flatMap wireGroup := by
  have hend : scan readEvent? (ofList [.give (.name "true")]).texts = [] :=
    scan_cons_of_none (readEvent?_eq_none (by decide) (by decide) [])
  rw [readEvents, map_text_lines, deserializeRoutine, texts_append, texts_concat,
    List.flatMap_map, scan_flatMap (scan_readOf rollback), hend, List.append_nil]

theorem writeEvents_serialize (isMessage : Bool) (fields : List PlannedField) (depth : Nat) :
    writeEvents ((serializeRoutine isMessage fields).body.lines depth) =
      (if isMessage then [.header] else []) ++ fields.flatMap wireGroup := by
  rw [writeEvents, map_text_lines, serializeRoutine, texts_append]
  cases isMessage with
  | false => exact scan_concat_writeOf fields
  | true =>
    have hline : Simple.text (.run (.call "Message::serialize" [serializer, stream])) =
        "Message::serialize(serializer, stream);" := by decide
    rw [if_pos rfl, texts_ofList, List.map_singleton, hline, List.singleton_append,
      scan_cons_of_some (if_pos rfl), scan_concat_writeOf]
    rfl

theorem header_notMem_wireGroup (f : PlannedField) : WireEvent.header ∉ wireGroup f := by
  cases hkind : f.kind <;> simp [wireGroup, hkind]

/-- **The routines of a class agree on its wire layout.** The events of the routine that reads are
the groups of the fields in order, one for each field. The events of the routine that writes are
the same, with the same places, loops and accesses, after the header of a message. -/
theorem wire_layout (isMessage rollback : Bool) (fields : List PlannedField) (depth : Nat) :
    let reads := readEvents ((deserializeRoutine rollback fields).body.lines depth)
    let writes := writeEvents ((serializeRoutine isMessage fields).body.lines depth)
    reads = fields.flatMap wireGroup ∧
      writes = (if isMessage then [.header] else []) ++ reads ∧
      WireEvent.header ∉ reads := by
  intro reads writes
  have hreads : reads = fields.flatMap wireGroup :=
    readEvents_deserialize rollback fields depth
  refine ⟨hreads, ?_, ?_⟩
  · rw [hreads]
    exact writeEvents_serialize isMessage fields depth
  · rw [hreads, List.mem_flatMap]
    rintro ⟨f, -, hf⟩
    exact header_notMem_wireGroup f hf

example :
    wireGroup (.make .token "path" 0 "Node[]**") =
      [.count "this->__path_len",
       .loop "for (unsigned char __i = 0; __i < this->__path_len; __i++) \x7b",
       .recurse "(*this->path[__i])->"] := by
  decide

end WireSchema.Header
