import WireSchema.Header.Routine
import WireSchema.Text.Case

/-!
# C++ headers

A header holds a class for every object, a class and a factory for every message, and a macro that
adds the factories to a registry in the order of the messages.

## Main definitions

* `Header.objectLines`, `Header.messageLines`: the classes.
* `Header.lines`: all lines of a header.
* `Header.emit`: the header of a schema.
-/

namespace WireSchema.Header

/-- The depth of the members of a class. -/
def memberDepth : Nat := 2

/-- An empty line. -/
def blank : Line := ⟨0, ""⟩

/-- Texts separated by commas. -/
def commas (items : List String) : String :=
  ", ".intercalate items

/-- The declarations of the members of all fields. -/
def declarations (fields : List PlannedField) : List Line :=
  (fields.flatMap members).map fun m => ⟨memberDepth, m.declaration⟩

/-- The lines of the four routines of a class. -/
def routineLines (isMessage rollback : Bool) (fields : List PlannedField) : List Line :=
  (routines isMessage rollback fields).flatMap (Routine.lines memberDepth)

/-- The constructors of an object: one without parameters and, if there are fields, one with a
parameter for every member. -/
def objectConstructors (o : PlannedObject) : List Line :=
  let ms := o.fields.flatMap members
  if ms.isEmpty then [⟨memberDepth, o.name ++ "() \x7b\x7d"⟩]
  else
    [⟨memberDepth, o.name ++ "() : " ++ commas (ms.map Member.firstValue) ++ " \x7b\x7d"⟩,
     ⟨memberDepth,
      o.name ++ "(" ++ commas (ms.map Member.parameter) ++ ") : " ++
        commas (ms.map Member.fromParameter) ++ " \x7b\x7d"⟩]

/-- The class of an object. -/
def objectLines (rollback : Bool) (o : PlannedObject) : List Line :=
  [⟨1, "class " ++ o.name ++ " : public ISerializable \x7b"⟩, ⟨1, "public:"⟩] ++
    declarations o.fields ++ objectConstructors o ++ [blank] ++
    routineLines false rollback o.fields ++
    [⟨1, "\x7d;"⟩, blank]

/-- The name of the constant that holds the tag of a message. -/
def tagConstant (m : PlannedMessage) : String :=
  "MSG_" ++ String.ofList (Text.upper m.name.toList)

/-- The method that gives the tag of a message. -/
def typeMethod (m : PlannedMessage) : Line :=
  ⟨memberDepth, "unsigned char type() \x7b return " ++ tagConstant m ++ "; \x7d"⟩

/-- The class of a message. -/
def messageClass (rollback : Bool) (m : PlannedMessage) : List Line :=
  [⟨1, "class " ++ m.name ++ "Message : public Message \x7b"⟩,
   ⟨memberDepth, "unsigned char " ++ versionMember ++ ";"⟩,
   ⟨1, "public:"⟩,
   ⟨memberDepth, m.name ++ "Message() : ver(" ++ hexByte m.version ++ ") \x7b\x7d"⟩,
   ⟨memberDepth, m.name ++ "Message(unsigned char ver) : ver(ver) \x7b\x7d"⟩] ++
    declarations m.fields ++
    [blank, typeMethod m,
     ⟨memberDepth, "unsigned char version() \x7b return this->ver; \x7d"⟩] ++
    routineLines true rollback m.fields ++
    [⟨1, "\x7d;"⟩]

/-- The factory of a message. -/
def factoryClass (m : PlannedMessage) : List Line :=
  [⟨1, "class " ++ m.name ++ "MessageFactory : public MessageFactory \x7b"⟩,
   ⟨1, "public:"⟩,
   typeMethod m,
   ⟨memberDepth,
    "Message* get(unsigned char ver) \x7b return new " ++ m.name ++ "Message(ver); \x7d"⟩,
   ⟨1, "\x7d;"⟩]

/-- The tag, the class and the factory of a message. -/
def messageLines (rollback : Bool) (m : PlannedMessage) : List Line :=
  [⟨1, "#define " ++ tagConstant m ++ " " ++ hexByte m.id⟩, blank] ++
    messageClass rollback m ++ factoryClass m ++ [blank]

/-- The macro that adds the factories of all messages to a registry. -/
def registerLines (messages : List PlannedMessage) : List Line :=
  ⟨0, "#define REGISTER(p)\t\\"⟩ ::
    messages.map (fun m => ⟨1, "p.addFactory(new " ++ m.name ++ "MessageFactory());\t\\"⟩) ++
    [blank]

/-- All lines of a header. -/
def lines (s : HeaderSettings) (rollback : Bool) (p : Plan) : List Line :=
  [⟨0, "#ifndef " ++ s.includeGuard⟩,
   ⟨0, "#define " ++ s.includeGuard⟩,
   blank,
   ⟨0, "#include \"" ++ s.coreHeader ++ "\""⟩,
   blank,
   ⟨0, "namespace " ++ s.space ++ " \x7b"⟩] ++
    p.objects.flatMap (objectLines rollback) ++
    p.messages.flatMap (messageLines rollback) ++
    registerLines p.messages ++
    [⟨0, "\x7d"⟩, ⟨0, "#endif"⟩]

/-- The header of a schema. -/
def emit (d : Definitions) (s : Settings) : Logged BuildError String := do
  let plan ← Plan.make d s.generate
  return renderLines (lines s.header s.generate.rollback plan)

end WireSchema.Header
