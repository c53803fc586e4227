import WireSchema.Replay.Basic

/-!
# Why code cannot be emitted

The causes for which a schema has no plan or a backend refuses it, and the text of each.
-/

namespace WireSchema

/-- Why the type of a field cannot be written in the target language. -/
inductive TypeFault
  /-- The type was read as a scalar, but `base` names none. -/
  | notScalar (base : String)
  /-- The text of the type is none, for the cause that its reader gives. -/
  | unreadable (cause : String)
  deriving DecidableEq, Repr

/-- The text of the cause. -/
def TypeFault.text : TypeFault → String
  | notScalar base => s!"'{base}' is not a builtin scalar"
  | unreadable cause => cause

/-- Why code cannot be emitted. -/
inductive BuildError
  /-- The path of the runtime library is no path, for the cause that its reader gives. -/
  | runtimePath (path cause : String)
  /-- A name cannot be made an identifier. -/
  | identifier (name : String)
  /-- The type of a field cannot be written in the target language. -/
  | fieldType (field type : String) (cause : TypeFault)
  /-- A field has the name of the member that holds the wire version. -/
  | reservedField (message field : String)
  /-- A field is changed that is not live. -/
  | unknownChange (e : UnknownChange)
  /-- No backend has the tag. -/
  | unknownBackend (tag : String) (supported : List String)
  deriving DecidableEq, Repr

/-- The text of an error. -/
def BuildError.text : BuildError → String
  | runtimePath path cause => s!"invalid runtime path '{path}': {cause}"
  | identifier name => s!"'{name}' is not a valid rust identifier"
  | fieldType field type cause =>
    s!"field '{field}' has type '{type}' which is not a valid rust type: {cause.text}"
  | reservedField message field =>
    s!"message '{message}' declares field '{field}', which is reserved for the wire version"
  | unknownChange e => e.text
  | unknownBackend tag supported =>
    let tags := ", ".intercalate supported
    s!"unknown backend '{tag}', supported backends: {tags}"

end WireSchema
