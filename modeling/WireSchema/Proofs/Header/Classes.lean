import Mathlib.Data.List.Forall2
import WireSchema.Proofs.Header.Unambiguous
import WireSchema.Proofs.Scan

/-!
# Reading an emitted C++ header

The classes that are known on the wire are read from the lines of a header, with the literals of
their tags and versions and the bodies of their routines. A routine is found by the line of its
signature, and its body is what is deeper than that line. The factories are read from the lines that
add them to a registry.

What is read are the contracts of the plan from which the header was emitted, in order.

## Main definitions

* `Header.body?`, `Header.bodies?`: the bodies of the routines in the lines of a class.
* `Header.classes`, `Header.registered`: the classes and the registered factories of a header.
* `Header.Renders`: a class renders a contract.

## Main results

* `Header.classes_lines`: the classes read from a header.
* `Header.forall₂_renders`: the classes of a header render the contracts of its plan.
* `Header.registered_lines`: the factories read from a header.
-/

namespace WireSchema.Header

/-! ### Routines -/

/-- The lines in the body of the routine with a signature. -/
def body? (signature : String) (lines : List Line) : Option (List Line) :=
  match lines.dropWhile (· != ⟨memberDepth, signature ++ " \x7b"⟩) with
  | [] => none
  | _ :: after => some (after.takeWhile fun l => memberDepth < l.depth)

/-- The bodies of the four routines in the lines of a class. -/
def bodies? (lines : List Line) : Option (Bodies Line) := do
  let length ← body? "unsigned char length(Serializer* serializer)" lines
  let read ← body? "bool deserialize(Serializer *serializer)" lines
  let write ← body? "void serialize(Serializer *serializer, Stream *stream)" lines
  let dispose ← body? "void dispose()" lines
  return ⟨length, read, write, dispose⟩

/-- A routine is found if its signature does not stand before it and its body is deeper than the
signature. -/
theorem body?_framed {signature : String} {before body : List Line}
    (hbefore : ∀ l ∈ before, l ≠ ⟨memberDepth, signature ++ " \x7b"⟩)
    (hbody : ∀ l ∈ body, memberDepth < l.depth) (after : List Line) :
    body? signature (before ++ (framed memberDepth signature body ++ after)) = some body := by
  have hdrop : (before ++ (framed memberDepth signature body ++ after)).dropWhile
      (· != ⟨memberDepth, signature ++ " \x7b"⟩) = framed memberDepth signature body ++ after := by
    rw [List.dropWhile_append_of_pos fun l hl => bne_iff_ne.2 (hbefore l hl), framed,
      List.cons_append, List.cons_append, List.dropWhile_cons_of_neg (by simp)]
  have htake : (body ++ ([(⟨memberDepth, "\x7d"⟩ : Line)] ++ after)).takeWhile
      (fun l => memberDepth < l.depth) = body := by
    rw [List.takeWhile_append_of_pos fun l hl => decide_eq_true (hbody l hl),
      List.singleton_append, List.takeWhile_cons_of_neg (by simp), List.append_nil]
  rw [body?, hdrop, framed, List.cons_append, List.cons_append, List.append_assoc]
  exact congrArg some htake

theorem ne_of_mem_framed {signature other : String} {body : List Line}
    (hbody : ∀ l ∈ body, memberDepth < l.depth) (hne : other ++ " \x7b" ≠ signature ++ " \x7b")
    (hbrace : "\x7d" ≠ signature ++ " \x7b") :
    ∀ l ∈ framed memberDepth other body, l ≠ ⟨memberDepth, signature ++ " \x7b"⟩ := by
  intro l hl heq
  simp only [framed, List.cons_append, List.mem_cons, List.mem_append, List.not_mem_nil,
    or_false] at hl
  rcases hl with rfl | hl | rfl
  · exact hne (congrArg Line.text heq)
  · have hdepth := hbody l hl
    rw [heq] at hdepth
    exact Nat.lt_irrefl _ hdepth
  · exact hbrace (congrArg Line.text heq)

/-- The routines of a class are found after lines that do not open a block. -/
theorem bodies?_eq {members : List Line} {b : Bodies Line}
    (hmembers : ∀ l ∈ members, l.text.toList.getLast? ≠ some '\x7b')
    (hb : ∀ l ∈ b.all, memberDepth < l.depth) :
    bodies? (members ++ bodyLines memberDepth b) = some b := by
  simp only [Bodies.all, List.mem_append, or_imp, forall_and] at hb
  obtain ⟨⟨⟨hlength, hread⟩, hwrite⟩, hdispose⟩ := hb
  have hbefore : ∀ signature : String, ∀ l ∈ members,
      l ≠ ⟨memberDepth, signature ++ " \x7b"⟩ := by
    rintro signature l hl rfl
    exact hmembers _ hl (by simp)
  have hall : ∀ {xs ys : List Line} {p : Line → Prop}, (∀ l ∈ xs, p l) → (∀ l ∈ ys, p l) →
      ∀ l ∈ xs ++ ys, p l := fun hx hy => List.forall_mem_append.2 ⟨hx, hy⟩
  have h1 : body? "unsigned char length(Serializer* serializer)"
      (members ++ bodyLines memberDepth b) = some b.length := by
    simp only [bodyLines, List.append_assoc]
    exact body?_framed (hbefore _) hlength _
  have h2 : body? "bool deserialize(Serializer *serializer)"
      (members ++ bodyLines memberDepth b) = some b.read := by
    simp only [bodyLines, List.append_assoc]
    rw [← List.append_assoc members]
    exact body?_framed (hall (hbefore _) (ne_of_mem_framed hlength (by decide) (by decide)))
      hread _
  have h3 : body? "void serialize(Serializer *serializer, Stream *stream)"
      (members ++ bodyLines memberDepth b) = some b.write := by
    simp only [bodyLines, List.append_assoc]
    rw [← List.append_assoc members, ← List.append_assoc (members ++ _)]
    exact body?_framed (hall (hall (hbefore _)
      (ne_of_mem_framed hlength (by decide) (by decide)))
      (ne_of_mem_framed hread (by decide) (by decide))) hwrite _
  have h4 : body? "void dispose()" (members ++ bodyLines memberDepth b) = some b.dispose := by
    simp only [bodyLines]
    rw [← List.append_assoc, ← List.append_assoc, ← List.append_assoc,
      ← List.append_nil (framed memberDepth "void dispose()" _)]
    exact body?_framed (hall (hall (hall (hbefore _)
      (ne_of_mem_framed hlength (by decide) (by decide)))
      (ne_of_mem_framed hread (by decide) (by decide)))
      (ne_of_mem_framed hwrite (by decide) (by decide))) hdispose []
  simp only [bodies?, h1, h2, h3, h4, Option.bind_eq_bind, Option.bind_some, Option.pure_def]

/-! ### Classes -/

/-- The last line of a class. -/
def classEnd : Line := ⟨1, "\x7d;"⟩

/-- The lines of a class, from those after its first line. -/
def classLines (after : List Line) : List Line :=
  after.takeWhile (· != classEnd)

/-- What the first line with an opening and a closing shows between them. -/
def shown? (opening closing : String) (lines : List Line) : Option String :=
  lines.findSome? fun l => between? opening closing l.text

/-- The class of an object that begins with a line. -/
def object? (line : Line) (after : List Line) : Option (WireType (Bodies Line)) := do
  let name ← between? "class " " : public ISerializable \x7b" line.text
  let bodies ← bodies? (classLines after)
  return ⟨name, none, bodies⟩

/-- The class of a message that begins with the constant of its tag. The class names the constant
whose literal is its tag, and gives the literal of its version to its first constructor. -/
def message? (line : Line) (after : List Line) : Option (WireType (Bodies Line)) := do
  let constant ← between? "#define " "" line.text
  let head ← after[1]?
  let name ← between? "class " " : public Message \x7b" head.text
  let lines := classLines (after.drop 2)
  let typeName ← shown? "unsigned char type() \x7b return " "; \x7d" lines
  let tag ← between? (typeName ++ " ") "" constant
  let version ← shown? (name ++ "() : ver(") ") \x7b\x7d" lines
  let bodies ← bodies? lines
  return ⟨name, some (tag, version), bodies⟩

/-- The class that begins with a line. -/
def class? (line : Line) (after : List Line) : Option (WireType (Bodies Line)) :=
  if line.depth = 1 then (object? line after).or (message? line after) else none

/-- The classes in lines that are known on the wire. -/
def classes (lines : List Line) : List (WireType (Bodies Line)) :=
  scan class? lines

/-- The factory that a line adds to a registry. -/
def factory? (line : Line) : Option String :=
  if line.depth = 1 then between? "p.addFactory(new " "());\t\\" line.text else none

/-- The factories that lines add to a registry, in order. -/
def registered (lines : List Line) : List String :=
  lines.filterMap factory?

/-- A line that neither begins nor ends a class. -/
def Line.IsInner (l : Line) : Prop :=
  l.depth = 1 → l.text = "public:"

theorem Line.IsInner.class? {l : Line} (h : l.IsInner) (after : List Line) :
    class? l after = none := by
  unfold Header.class?
  split_ifs with hdepth
  · have hclass : between? "class " " : public ISerializable \x7b" l.text = none := by
      rw [h hdepth]
      decide
    have hdefine : between? "#define " "" l.text = none := by
      rw [h hdepth]
      decide
    simp only [object?, message?, hclass, hdefine, Option.bind_eq_bind, Option.bind_none,
      Option.or_none]
  · rfl

theorem Line.IsInner.factory? {l : Line} (h : l.IsInner) : factory? l = none := by
  unfold Header.factory?
  split_ifs with hdepth
  · rw [h hdepth]
    decide
  · rfl

theorem Line.IsInner.ne_classEnd {l : Line} (h : l.IsInner) : l ≠ classEnd := by
  rintro rfl
  exact absurd (h rfl) (by decide)

theorem isInner_of_depth_ne {l : Line} (h : l.depth ≠ 1) : l.IsInner :=
  fun hdepth => absurd hdepth h

theorem isInner_bodyLines {b : Bodies Line} (hb : ∀ l ∈ b.all, memberDepth < l.depth) :
    ∀ l ∈ bodyLines memberDepth b, l.IsInner := by
  have hframed : ∀ (signature : String) (body : List Line),
      (∀ l ∈ body, memberDepth < l.depth) →
        ∀ l ∈ framed memberDepth signature body, l.IsInner := by
    intro signature body hbody l hl
    simp only [framed, List.cons_append, List.mem_cons, List.mem_append, List.not_mem_nil,
      or_false] at hl
    rcases hl with rfl | hl | rfl
    · exact isInner_of_depth_ne (Nat.succ_ne_self 1)
    · have hdepth : 2 < l.depth := hbody l hl
      exact isInner_of_depth_ne (by omega)
    · exact isInner_of_depth_ne (Nat.succ_ne_self 1)
  simp only [Bodies.all, List.mem_append, or_imp, forall_and] at hb
  obtain ⟨⟨⟨hlength, hread⟩, hwrite⟩, hdispose⟩ := hb
  simp only [bodyLines, List.forall_mem_append]
  exact ⟨⟨⟨hframed _ _ hlength, hframed _ _ hread⟩, hframed _ _ hwrite⟩, hframed _ _ hdispose⟩

/-- The lines of a class end at its last line. -/
theorem classLines_append {lines : List Line} (h : ∀ l ∈ lines, l.IsInner) (after : List Line) :
    classLines (lines ++ classEnd :: after) = lines := by
  rw [classLines, List.takeWhile_append_of_pos fun l hl => bne_iff_ne.2 (h l hl).ne_classEnd,
    List.takeWhile_cons_of_neg (by simp), List.append_nil]

theorem class?_classEnd (after : List Line) : class? classEnd after = none := rfl

theorem class?_blank (after : List Line) : class? blank after = none := rfl

/-- Nothing begins inside of a class. -/
theorem scan_class_append {lines : List Line} (h : ∀ l ∈ lines, l.IsInner) (after : List Line) :
    scan class? (lines ++ classEnd :: after) = scan class? after := by
  rw [scan_append_of_none fun l hl after => (h l hl).class? after,
    scan_cons_of_none (class?_classEnd after)]

/-- A line inside of a class that does not open a block. -/
def Line.IsPlain (l : Line) : Prop :=
  l.IsInner ∧ l.text.toList.getLast? ≠ some '\x7b'

theorem isPlain_append {opening closing : String} (h : closing ≠ "")
    (hlast : closing.toList.getLast? ≠ some '\x7b') :
    Line.IsPlain ⟨memberDepth, opening ++ closing⟩ := by
  refine ⟨isInner_of_depth_ne (Nat.succ_ne_self 1), ?_⟩
  rwa [String.toList_append, List.getLast?_append_of_ne_nil _ (by simpa using h)]

theorem isPlain_public : Line.IsPlain ⟨1, "public:"⟩ := ⟨fun _ => rfl, by decide⟩

theorem isPlain_blank : blank.IsPlain := ⟨isInner_of_depth_ne (by decide), by decide⟩

theorem isPlain_declarations (fields : List PlannedField) :
    ∀ l ∈ declarations fields, l.IsPlain := by
  intro l hl
  obtain ⟨m, -, rfl⟩ := List.mem_map.1 hl
  unfold Member.declaration
  cases m.zeroed <;> exact isPlain_append (by decide) (by decide)

/-- A class whose routines follow plain lines is read to its end. -/
theorem bodies?_classLines {members : List Line} {b : Bodies Line}
    (hmembers : ∀ l ∈ members, l.IsPlain) (hb : ∀ l ∈ b.all, memberDepth < l.depth)
    (after : List Line) :
    classLines (members ++ bodyLines memberDepth b ++ classEnd :: after) =
        members ++ bodyLines memberDepth b ∧
      bodies? (members ++ bodyLines memberDepth b) = some b ∧
      scan class? (members ++ bodyLines memberDepth b ++ classEnd :: after) =
        scan class? after := by
  have hinner : ∀ l ∈ members ++ bodyLines memberDepth b, l.IsInner :=
    List.forall_mem_append.2 ⟨fun l hl => (hmembers l hl).1, isInner_bodyLines hb⟩
  exact ⟨classLines_append hinner after, bodies?_eq (fun l hl => (hmembers l hl).2) hb,
    scan_class_append hinner after⟩

/-! ### Objects -/

/-- The lines of an object before its routines. -/
def objectMembers (o : PlannedObject) : List Line :=
  ⟨1, "public:"⟩ :: declarations o.fields ++ objectConstructors o ++ [blank]

theorem objectLines_eq (rollback : Bool) (o : PlannedObject) :
    objectLines rollback o =
      ⟨1, "class " ++ o.name ++ " : public ISerializable \x7b"⟩ ::
        (objectMembers o ++
            bodyLines memberDepth (routineBodies memberDepth false rollback o.fields) ++
          classEnd :: [blank]) := by
  rw [← lines_routines]
  simp only [objectLines, objectMembers, routineLines, classEnd, List.cons_append,
    List.append_assoc, List.nil_append]

theorem isPlain_objectMembers (o : PlannedObject) : ∀ l ∈ objectMembers o, l.IsPlain := by
  have hconstructors : ∀ l ∈ objectConstructors o, l.IsPlain := by
    intro l hl
    dsimp only [objectConstructors] at hl
    split_ifs at hl
    · obtain rfl := List.mem_singleton.1 hl
      exact isPlain_append (by decide) (by decide)
    · simp only [List.mem_cons, List.not_mem_nil, or_false] at hl
      rcases hl with rfl | rfl <;> exact isPlain_append (by decide) (by decide)
  simp only [objectMembers, List.cons_append, List.forall_mem_cons, List.forall_mem_append]
  exact ⟨isPlain_public, ⟨isPlain_declarations o.fields, hconstructors⟩, isPlain_blank,
    List.forall_mem_nil _⟩

/-- An object shows its class. -/
theorem scan_objectLines (rollback : Bool) (o : PlannedObject) (after : List Line) :
    scan class? (objectLines rollback o ++ after) =
      [⟨o.name, none, routineBodies memberDepth false rollback o.fields⟩] ++
        scan class? after := by
  obtain ⟨hlines, hbodies, hscan⟩ := bodies?_classLines (isPlain_objectMembers o)
    (lt_depth_routineBodies memberDepth false rollback o.fields) (blank :: after)
  have hname : between? "class " " : public ISerializable \x7b"
      ("class " ++ o.name ++ " : public ISerializable \x7b") = some o.name :=
    between?_eq_some_iff.2 rfl
  have hclass : class? ⟨1, "class " ++ o.name ++ " : public ISerializable \x7b"⟩
      (objectMembers o ++ bodyLines memberDepth
          (routineBodies memberDepth false rollback o.fields) ++ classEnd :: blank :: after) =
        some ⟨o.name, none, routineBodies memberDepth false rollback o.fields⟩ := by
    simp only [class?, if_true, object?, hname, hlines, hbodies, Option.bind_eq_bind,
      Option.bind_some, Option.pure_def, Option.some_or]
  rw [objectLines_eq, List.cons_append, List.append_assoc]
  simp only [List.cons_append, List.nil_append]
  rw [scan_cons_of_some hclass, hscan, scan_cons_of_none (class?_blank after)]

/-! ### Messages -/

/-- The lines of a message before its routines. -/
def messageMembers (m : PlannedMessage) : List Line :=
  [⟨memberDepth, "unsigned char " ++ versionMember ++ ";"⟩,
   ⟨1, "public:"⟩,
   ⟨memberDepth, m.name ++ "Message() : ver(" ++ hexByte m.version ++ ") \x7b\x7d"⟩,
   ⟨memberDepth, m.name ++ "Message(unsigned char ver) : ver(ver) \x7b\x7d"⟩] ++
    declarations m.fields ++
    [blank, typeMethod m, ⟨memberDepth, "unsigned char version() \x7b return this->ver; \x7d"⟩]

/-- The lines of the factory of a message between its first and its last. -/
def factoryMembers (m : PlannedMessage) : List Line :=
  [⟨1, "public:"⟩,
   typeMethod m,
   ⟨memberDepth,
    "Message* get(unsigned char ver) \x7b return new " ++ m.name ++ "Message(ver); \x7d"⟩]

theorem messageLines_eq (rollback : Bool) (m : PlannedMessage) :
    messageLines rollback m =
      ⟨1, "#define " ++ tagConstant m ++ " " ++ hexByte m.id⟩ :: blank ::
        ⟨1, "class " ++ m.name ++ "Message : public Message \x7b"⟩ ::
          (messageMembers m ++
              bodyLines memberDepth (routineBodies memberDepth true rollback m.fields) ++
            classEnd :: ⟨1, "class " ++ m.name ++ "MessageFactory : public MessageFactory \x7b"⟩ ::
              (factoryMembers m ++ classEnd :: [blank])) := by
  rw [← lines_routines]
  simp only [messageLines, messageClass, factoryClass, messageMembers, factoryMembers,
    routineLines, classEnd, List.cons_append, List.append_assoc, List.nil_append]

theorem isPlain_typeMethod (m : PlannedMessage) : (typeMethod m).IsPlain :=
  isPlain_append (by decide) (by decide)

theorem isPlain_messageMembers (m : PlannedMessage) : ∀ l ∈ messageMembers m, l.IsPlain := by
  simp only [messageMembers, List.cons_append, List.nil_append, List.forall_mem_cons,
    List.forall_mem_append]
  exact ⟨isPlain_append (by decide) (by decide), isPlain_public,
    isPlain_append (by decide) (by decide), isPlain_append (by decide) (by decide),
    isPlain_declarations m.fields, isPlain_blank, isPlain_typeMethod m,
    ⟨isInner_of_depth_ne (Nat.succ_ne_self 1), by decide⟩, List.forall_mem_nil _⟩

theorem isPlain_factoryMembers (m : PlannedMessage) : ∀ l ∈ factoryMembers m, l.IsPlain := by
  simp only [factoryMembers, List.forall_mem_cons]
  exact ⟨isPlain_public, isPlain_typeMethod m, isPlain_append (by decide) (by decide),
    List.forall_mem_nil _⟩

theorem shown?_append_of_none {opening closing : String} {before : List Line}
    (h : ∀ l ∈ before, between? opening closing l.text = none) (after : List Line) :
    shown? opening closing (before ++ after) = shown? opening closing after := by
  rw [shown?, List.findSome?_append, List.findSome?_eq_none_iff.2 h]
  rfl

theorem shown?_cons_of_some {opening closing inner : String} {l : Line}
    (h : l.text = opening ++ inner ++ closing) (after : List Line) :
    shown? opening closing (l :: after) = some inner := by
  rw [shown?, List.findSome?_cons, between?_eq_some_iff.2 h]

/-- The class of a message names the constant of its tag. -/
theorem shown?_tagConstant (m : PlannedMessage) (after : List Line) :
    shown? "unsigned char type() \x7b return " "; \x7d" (messageMembers m ++ after) =
      some (tagConstant m) := by
  have hdeclaration : ∀ l ∈ declarations m.fields,
      between? "unsigned char type() \x7b return " "; \x7d" l.text = none := by
    intro l hl
    obtain ⟨member, -, rfl⟩ := List.mem_map.1 hl
    refine between?_eq_none_of_closing ?_
    cases hz : member.zeroed <;> simp [Member.declaration, hz]
  simp only [messageMembers, List.append_assoc]
  rw [shown?_append_of_none, shown?_append_of_none hdeclaration, List.cons_append, ←
    List.singleton_append, shown?_append_of_none]
  · exact shown?_cons_of_some rfl _
  · simp only [List.forall_mem_cons]
    exact ⟨between?_eq_none_of_closing (by decide), List.forall_mem_nil _⟩
  · simp only [List.forall_mem_cons]
    exact ⟨between?_eq_none_of_closing (by decide), between?_eq_none_of_closing (by decide),
      between?_eq_none_of_closing (by simp), between?_eq_none_of_closing (by simp),
      List.forall_mem_nil _⟩

/-- The class of a message gives its version to its first constructor. -/
theorem shown?_version (m : PlannedMessage) (after : List Line) :
    shown? (m.name ++ "Message" ++ "() : ver(") ") \x7b\x7d" (messageMembers m ++ after) =
      some (hexByte m.version) := by
  have hversion : m.name ++ "Message() : ver(" ++ hexByte m.version ++ ") \x7b\x7d" =
      m.name ++ "Message" ++ "() : ver(" ++ hexByte m.version ++ ") \x7b\x7d" :=
    String.toList_injective (by simp)
  have hbefore : ∀ l ∈ [(⟨memberDepth, "unsigned char " ++ versionMember ++ ";"⟩ : Line),
      ⟨1, "public:"⟩],
      between? (m.name ++ "Message" ++ "() : ver(") ") \x7b\x7d" l.text = none := by
    simp only [List.forall_mem_cons]
    exact ⟨between?_eq_none_of_closing (by decide), between?_eq_none_of_closing (by decide),
      List.forall_mem_nil _⟩
  exact (shown?_append_of_none hbefore _).trans (shown?_cons_of_some hversion _)

theorem class?_eq_none {text : String} (after : List Line)
    (hclass : between? "class " " : public ISerializable \x7b" text = none)
    (hdefine : between? "#define " "" text = none) : class? ⟨1, text⟩ after = none := by
  simp only [class?, if_true, object?, message?, hclass, hdefine, Option.bind_eq_bind,
    Option.bind_none, Option.or_none]

/-- A message shows its class with the literals of its tag and its version. -/
theorem scan_messageLines (rollback : Bool) (m : PlannedMessage) (after : List Line) :
    scan class? (messageLines rollback m ++ after) =
      [⟨m.name ++ "Message", some (hexByte m.id, hexByte m.version),
        routineBodies memberDepth true rollback m.fields⟩] ++ scan class? after := by
  let factory : Line := ⟨1, "class " ++ m.name ++ "MessageFactory : public MessageFactory \x7b"⟩
  let head : Line := ⟨1, "class " ++ m.name ++ "Message : public Message \x7b"⟩
  let members := messageMembers m ++
    bodyLines memberDepth (routineBodies memberDepth true rollback m.fields)
  let rest := factory :: (factoryMembers m ++ classEnd :: blank :: after)
  obtain ⟨hlines, hbodies, hscan⟩ := bodies?_classLines (isPlain_messageMembers m)
    (lt_depth_routineBodies memberDepth true rollback m.fields) rest
  have hfactory : class? factory (factoryMembers m ++ classEnd :: blank :: after) = none :=
    class?_eq_none _ (between?_eq_none_of_closing (by simp))
      (between?_eq_none_of_opening (by simp))
  have hhead : class? head (members ++ classEnd :: rest) = none :=
    class?_eq_none _ (between?_eq_none_of_closing (by simp))
      (between?_eq_none_of_opening (by simp))
  have hmessage : class? ⟨1, "#define " ++ tagConstant m ++ " " ++ hexByte m.id⟩
      (blank :: head :: (members ++ classEnd :: rest)) =
        some ⟨m.name ++ "Message", some (hexByte m.id, hexByte m.version),
          routineBodies memberDepth true rollback m.fields⟩ := by
    have hobject : between? "class " " : public ISerializable \x7b"
        ("#define " ++ tagConstant m ++ " " ++ hexByte m.id) = none :=
      between?_eq_none_of_opening (by simp)
    have hdefine : between? "#define " "" ("#define " ++ tagConstant m ++ " " ++ hexByte m.id) =
        some (tagConstant m ++ " " ++ hexByte m.id) :=
      between?_eq_some_iff.2 (String.toList_injective (by simp))
    have hname : between? "class " " : public Message \x7b" head.text =
        some (m.name ++ "Message") :=
      between?_eq_some_iff.2 (String.toList_injective (by simp [head]))
    have htag : between? (tagConstant m ++ " ") "" (tagConstant m ++ " " ++ hexByte m.id) =
        some (hexByte m.id) :=
      between?_eq_some_iff.2 (String.append_empty).symm
    have hconstant := shown?_tagConstant m
      (bodyLines memberDepth (routineBodies memberDepth true rollback m.fields))
    have hversion := shown?_version m
      (bodyLines memberDepth (routineBodies memberDepth true rollback m.fields))
    simp only [class?, if_true, object?, hobject, message?, hdefine, List.getElem?_cons_succ,
      List.getElem?_cons_zero, hname, List.drop_succ_cons, List.drop_zero, members, hlines,
      hconstant, htag, hversion, hbodies, Option.bind_eq_bind, Option.bind_none, Option.bind_some,
      Option.pure_def, Option.none_or]
  have heq : messageLines rollback m ++ after =
      ⟨1, "#define " ++ tagConstant m ++ " " ++ hexByte m.id⟩ :: blank :: head ::
        (members ++ classEnd :: rest) := by
    simp only [messageLines_eq, List.cons_append, List.append_assoc, List.nil_append, head, members,
      rest, factory]
  rw [heq, scan_cons_of_some hmessage, scan_cons_of_none (class?_blank _), scan_cons_of_none hhead,
    hscan, scan_cons_of_none hfactory,
    scan_class_append fun l hl => (isPlain_factoryMembers m l hl).1,
    scan_cons_of_none (class?_blank after), List.singleton_append]

/-! ### Headers -/

theorem class?_of_depth_ne {l : Line} (h : l.depth ≠ 1) (after : List Line) :
    class? l after = none :=
  (isInner_of_depth_ne h).class? after

/-- The classes of a header have the names, the literals and the routines of the contracts of its
plan. -/
theorem classes_lines (s : HeaderSettings) (rollback : Bool) (p : Plan) :
    classes (lines s rollback p) = p.contracts.map fun w =>
      ⟨w.name, w.literals, routineBodies memberDepth w.literals.isSome rollback w.content⟩ := by
  have hregister : scan class? (registerLines p.messages ++ [⟨0, "\x7d"⟩, ⟨0, "#endif"⟩]) = [] := by
    rw [registerLines, List.cons_append, List.cons_append,
      scan_cons_of_none (class?_of_depth_ne (by decide) _), List.append_assoc,
      scan_append_of_none]
    · rfl
    · intro l hl after
      obtain ⟨m, -, rfl⟩ := List.mem_map.1 hl
      exact class?_eq_none after (between?_eq_none_of_opening (by simp))
        (between?_eq_none_of_opening (by simp))
  rw [classes, lines]
  simp only [List.append_assoc]
  rw [scan_append_of_none, scan_flatMap (scan_objectLines rollback),
    scan_flatMap (scan_messageLines rollback), hregister, List.append_nil, ← List.map_eq_flatMap,
    ← List.map_eq_flatMap, Plan.contracts, List.map_append, List.map_map, List.map_map]
  · rfl
  · intro l hl after
    refine class?_of_depth_ne ?_ after
    simp only [List.mem_cons, List.not_mem_nil, or_false] at hl
    rcases hl with rfl | rfl | rfl | rfl | rfl | rfl <;> exact Nat.zero_ne_one

/-! ### Factories -/

theorem factory?_eq_none {text : String} (h : ¬ "p.addFactory(new ".toList <+: text.toList) :
    factory? ⟨1, text⟩ = none := by
  rw [factory?, if_pos rfl, between?_eq_none_of_opening h]

theorem factory?_class {members : List Line} {b : Bodies Line}
    (hmembers : ∀ l ∈ members, l.IsPlain) (hb : ∀ l ∈ b.all, memberDepth < l.depth) :
    ∀ l ∈ members ++ bodyLines memberDepth b, factory? l = none :=
  List.forall_mem_append.2 ⟨fun l hl => (hmembers l hl).1.factory?,
    fun l hl => (isInner_bodyLines hb l hl).factory?⟩

theorem registered_objectLines (rollback : Bool) (o : PlannedObject) :
    registered (objectLines rollback o) = [] := by
  have hclass := factory?_class (isPlain_objectMembers o)
    (lt_depth_routineBodies memberDepth false rollback o.fields)
  rw [registered, List.filterMap_eq_nil_iff, objectLines_eq, List.forall_mem_cons,
    List.forall_mem_append]
  exact ⟨factory?_eq_none (by simp), hclass, by decide⟩

theorem registered_messageLines (rollback : Bool) (m : PlannedMessage) :
    registered (messageLines rollback m) = [] := by
  have hclass := factory?_class (isPlain_messageMembers m)
    (lt_depth_routineBodies memberDepth true rollback m.fields)
  have hfactory : ∀ l ∈ factoryMembers m, factory? l = none :=
    fun l hl => (isPlain_factoryMembers m l hl).1.factory?
  rw [registered, List.filterMap_eq_nil_iff, messageLines_eq]
  simp only [List.forall_mem_cons, List.forall_mem_append] at hclass ⊢
  exact ⟨factory?_eq_none (by simp), isPlain_blank.1.factory?, factory?_eq_none (by simp), hclass,
    rfl, factory?_eq_none (by simp), hfactory, rfl, isPlain_blank.1.factory?,
    List.forall_mem_nil _⟩

theorem registered_flatMap {γ : Type} {part : γ → List Line} (h : ∀ c, registered (part c) = [])
    (parts : List γ) : registered (parts.flatMap part) = [] := by
  induction parts with
  | nil => rfl
  | cons c parts ih =>
    rw [List.flatMap_cons, registered, List.filterMap_append]
    exact List.append_eq_nil_iff.2 ⟨h c, ih⟩

/-- A header registers the factories of the messages, in order. -/
theorem registered_lines (s : HeaderSettings) (rollback : Bool) (p : Plan) :
    registered (lines s rollback p) = p.messages.map (·.name ++ "MessageFactory") := by
  have hfactory : (factory? ∘ fun m : PlannedMessage =>
      (⟨1, "p.addFactory(new " ++ m.name ++ "MessageFactory());\t\\"⟩ : Line)) =
        fun m => some (m.name ++ "MessageFactory") := by
    funext m
    rw [Function.comp_apply, factory?, if_pos rfl, between?_eq_some_iff]
    exact String.toList_injective (by simp)
  have hregister : registered (registerLines p.messages) =
      p.messages.map (·.name ++ "MessageFactory") := by
    rw [registerLines, registered, List.cons_append, List.filterMap_cons_none rfl,
      List.filterMap_append, List.filterMap_map, hfactory, List.filterMap_eq_map']
    exact List.append_nil _
  have hobjects := registered_flatMap (registered_objectLines rollback) p.objects
  have hmessages := registered_flatMap (registered_messageLines rollback) p.messages
  simp only [registered] at hobjects hmessages hregister ⊢
  rw [lines, List.filterMap_append, List.filterMap_append, List.filterMap_append,
    List.filterMap_append, hobjects, hmessages, hregister]
  exact List.append_nil _

/-! ### Contracts -/

/-- A class renders a contract: it has the name and the literals of the contract, its routines take
the actions of the fields, and no others if the names of the fields differ, and its reads can fail
as often as the fields ask for. -/
structure Renders (rollback : Bool) (w : WireType (List PlannedField))
    (t : WireType (Bodies Line)) : Prop where
  name_eq : t.name = w.name
  literals_eq : t.literals = w.literals
  takes : (phrasebook memberDepth w.literals.isSome rollback).Takes w.content t.content
    (w.content.map PlannedField.actions)
  takes_only : (w.content.map (·.name)).Nodup → ∀ actions,
    (phrasebook memberDepth w.literals.isSome rollback).Takes w.content t.content actions →
      actions = w.content.map PlannedField.actions
  exits_eq : t.content.read.countP Line.isExit = failureExits w.content

/-- The classes of a header render the contracts of its plan, in order. -/
theorem forall₂_renders (s : HeaderSettings) (rollback : Bool) (p : Plan) :
    List.Forall₂ (Renders rollback) p.contracts (classes (lines s rollback p)) := by
  rw [classes_lines, List.forall₂_map_right_iff, List.forall₂_same]
  exact fun w _ =>
    { name_eq := rfl
      literals_eq := rfl
      takes := takes_routineBodies memberDepth w.literals.isSome rollback w.content
      takes_only := fun hnames _ =>
        actions_eq_of_takes memberDepth w.literals.isSome rollback hnames
      exits_eq := countP_isExit_routineBodies memberDepth w.literals.isSome rollback w.content }

end WireSchema.Header
