import WireSchema.Log
import WireSchema.Module.Routine

/-!
# Rust modules

A module holds one struct for every object and, for every message, a constant with its tag, a
struct and a factory. Its last item registers the factories. All structs have the four routines of
`Module.routines`.

An unusable name or type ends the emission. The path of the runtime library is looked at first,
then the objects and the messages in order.

## Main definitions

* `Module.object`, `Module.message`, `Module.register`: the items of a module.
* `Module.emit`: the text of a module.
-/

namespace WireSchema.Module

/-- The name of a trait of the runtime library. -/
def runtimeTrait (runtime : Tokens) (name : String) : Tokens :=
  runtimeName runtime [name]

/-- The parameter through which a method sees its object. -/
def selfParameter : Tokens := tokens ["&", "self"]

/-- The members of a struct, each with its type. -/
def members (fields : List Field) : Tokens :=
  fields.flatMap fun f => tokens ["pub", f.ident, ":"] ++ f.type.tokens ++ [.word ","]

/-- An attribute with a list of words, such as `# [derive (Debug)]`. -/
def listAttr (name : String) (words : List String) : Tokens :=
  attr (.word name :: parens (tokens (words.intersperse ",")))

/-- A public struct with members. -/
def struct (derived : List String) (ident : String) (body : Tokens) : Tokens :=
  listAttr "derive" derived ++ tokens ["pub", "struct", ident] ++ braces body

/-- The implementation of a trait. -/
def implementation (name : Tokens) (ident : String) (methods : List Routine) : Tokens :=
  .word "impl" :: name ++ tokens ["for", ident] ++ braces (methods.flatMap Routine.tokens)

/-- The implementation of the four routines. -/
def serializable (runtime : Tokens) (ident : String) (methods : List Routine) : Tokens :=
  listAttr "allow" ["unused_mut", "unused_variables"] ++
    implementation (runtimeTrait runtime "Serializable") ident methods

/-- The constant of a byte. -/
def byteConstant (ident : String) (b : UInt8) : Tokens :=
  tokens ["pub", "const", ident, ":", "u8", "=", hexByte b, ";"]

/-- The struct of an object. -/
def object (g : Grammar) (runtime : Tokens) (rollback : Bool) (o : PlannedObject) :
    Except BuildError Tokens := do
  let ident ← identifier o.name
  let fields ← o.fields.mapM (Field.make g)
  return struct ["Debug", "Default"] ident (members fields) ++
    serializable runtime ident (routines runtime false rollback fields)

/-! ### Messages -/

/-- A message with its identifiers. -/
structure MessageItem where
  plan : PlannedMessage
  ident : String
  factory : String
  constant : String
  fields : List Field
  deriving Repr

/-- The name of the struct of a message. -/
def structName (message : String) : String :=
  message ++ "Message"

/-- The name of the factory of a message. -/
def factoryName (message : String) : String :=
  message ++ "MessageFactory"

/-- The name of the constant that holds the tag of a message. -/
def constantName (g : Grammar) (message : String) : String :=
  "MSG_" ++ g.constant message

/-- The identifiers and the fields of a message. No field may have the identifier of the member
that holds the wire version. -/
def MessageItem.make (g : Grammar) (m : PlannedMessage) : Except BuildError MessageItem := do
  let ident ← identifier (structName m.name)
  let factory ← identifier (factoryName m.name)
  let constant ← identifier (constantName g m.name)
  let fields ← m.fields.mapM (Field.make g)
  match fields.find? (·.ident == versionMember) with
  | some clash => throw (.reservedField m.name clash.plan.name)
  | none => return { plan := m, ident, factory, constant, fields }

/-- The function that makes a message of the current version, and the one that makes a message
of any version. -/
def constructors (fields : List Field) : Tokens :=
  attr [.word "must_use"] ++ tokens ["pub", "fn", "new"] ++ parens [] ++
    tokens ["->", "Self"] ++
    braces (tokens ["Self", "::", "with_version"] ++
      parens (tokens ["Self", "::", "VERSION"])) ++
  attr [.word "must_use"] ++ tokens ["pub", "fn", "with_version"] ++
    parens (tokens ["ver", ":", "u8"]) ++ tokens ["->", "Self"] ++
    braces (.word "Self" ::
      braces (tokens ["ver", ","] ++
        fields.flatMap fun f => tokens [f.ident, ":"] ++ defaultValue.tokens ++ [.word ","]))

/-- The method that gives the tag of a message. -/
def typeIdRoutine (constant : String) : Routine where
  name := "type_id"
  parameters := selfParameter
  result := some [.word "u8"]
  body := .value (word constant)

/-- The method that gives the version of a message. -/
def versionRoutine : Routine where
  name := "version"
  parameters := selfParameter
  result := some [.word "u8"]
  body := .value (.field versionMember)

/-- The method that gives the value of a message made without arguments. -/
def defaultRoutine : Routine where
  name := "default"
  parameters := []
  result := some [.word "Self"]
  body := .value (.call (.name (tokens ["Self", "::", "new"])) [] false)

/-- The new box of a value. -/
def newBox (e : Expr) : Expr :=
  .call (.name (path ["std", "boxed", "Box", "new"])) [e] false

/-- The method by which a factory makes a message. -/
def getRoutine (runtime : Tokens) (ident : String) : Routine where
  name := "get"
  parameters := selfParameter ++ tokens [",", "ver", ":", "u8"]
  result := some
    (TypeTerm.boxed (.leaf (.word "dyn" :: runtimeTrait runtime "Message"))).tokens
  body :=
    .value (newBox
      (.call (.name (tokens [ident, "::", "with_version"])) [word "ver"] false))

/-- The items of a message: its constant, its struct and its factory. -/
def MessageItem.tokens (runtime : Tokens) (rollback : Bool) (m : MessageItem) : Tokens :=
  byteConstant m.constant m.plan.id ++
  struct ["Debug"] m.ident
    (Module.tokens [versionMember, ":", "u8", ","] ++ members m.fields) ++
  Module.tokens ["impl", m.ident] ++
    braces (byteConstant "VERSION" m.plan.version ++ constructors m.fields) ++
  implementation (path ["core", "default", "Default"]) m.ident [defaultRoutine] ++
  serializable runtime m.ident (routines runtime true rollback m.fields) ++
  implementation (runtimeTrait runtime "Message") m.ident
    [typeIdRoutine m.constant, versionRoutine] ++
  listAttr "derive" ["Clone", "Copy", "Debug", "Default"] ++
    Module.tokens ["pub", "struct", m.factory, ";"] ++
  implementation (runtimeTrait runtime "MessageFactory") m.factory
    [typeIdRoutine m.constant, getRoutine runtime m.ident]

/-- The items of a message. -/
def message (g : Grammar) (runtime : Tokens) (rollback : Bool) (m : PlannedMessage) :
    Except BuildError Tokens := do
  let item ← MessageItem.make g m
  return item.tokens runtime rollback

/-! ### The whole module -/

/-- The registration of a factory. -/
def addFactory (runtime : Tokens) (factory : String) : Block :=
  .run
    (.call (.name (runtimeName runtime ["FactoryRegistry", "add_factory"]))
      [word "registry", newBox (word factory)] true)
    .done

/-- The function that registers the factories of all messages in order. -/
def register (runtime : Tokens) (messages : List PlannedMessage) : Except BuildError Tokens := do
  let factories ← messages.mapM fun m => identifier (factoryName m.name)
  let routine : Routine := {
    name := "register"
    parameters :=
      tokens ["registry", ":", "&", "mut", "impl"] ++ runtimeTrait runtime "FactoryRegistry"
    body := .concat (factories.map (addFactory runtime)) }
  return attr (tokens
      ["doc", "=", "r\" Add one factory per message, in declaration order.\""]) ++
    listAttr "allow" ["unused_variables"] ++ .word "pub" :: routine.tokens

/-- The import of the trait whose methods the routines call. -/
def traitImport (runtime : Tokens) : Tokens :=
  listAttr "allow" ["unused_imports"] ++ .word "use" :: runtimeTrait runtime "Serializable" ++
    tokens ["as", "_", ";"]

/-- The path of the runtime library. -/
def runtimePath (g : Grammar) (s : ModuleSettings) : Except BuildError Tokens :=
  match g.path s.runtimePath with
  | .ok phrase => .ok phrase.tokens
  | .error cause => .error (.runtimePath s.runtimePath cause)

/-- The items of a module. -/
def items (g : Grammar) (s : Settings) (p : Plan) : Except BuildError Tokens := do
  let runtime ← runtimePath g s.module
  let objects ← p.objects.mapM (object g runtime s.generate.rollback)
  let messages ← p.messages.mapM (message g runtime s.generate.rollback)
  let registration ← register runtime p.messages
  return traitImport runtime ++ objects.flatten ++ messages.flatten ++ registration

/-- The first line of a module. -/
def banner : String := "// @generated by battlegen, do not edit\n"

/-- The text of the module for a schema. -/
def emit (g : Grammar) (d : Definitions) (s : Settings) : Logged BuildError String := do
  let plan ← Plan.make d s.generate
  let tokens ← Logged.ofExcept (items g s plan)
  return banner ++ render tokens ++ "\n"

end WireSchema.Module
