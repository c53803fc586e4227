import WireSchema.Schema.Basic
import WireSchema.Text.Quoted

/-!
# The debug dump

One line for each message of a schema, which shows all of its data. Objects are not shown.

## Main definitions

* `Message.dump`: the text of a message.
* `Definitions.dump`: the lines of all messages.
-/

namespace WireSchema

namespace Dump

/-- A text between quotes. -/
def text (s : String) : String :=
  String.ofList (Text.quote s.toList)

/-- A list between square brackets. -/
def list (items : List String) : String :=
  "[" ++ ", ".intercalate items ++ "]"

/-- A record with named members between braces. -/
def fields (name : String) (members : List (String × String)) : String :=
  name ++ " \x7b " ++ ", ".intercalate (members.map fun (k, v) => k ++ ": " ++ v) ++ " \x7d"

/-- A text that may be absent. -/
def option : Option String → String
  | some s => "Some(" ++ text s ++ ")"
  | none => "None"

end Dump

open Dump

/-- The text of an added field. -/
def FieldSpec.dump (f : FieldSpec) : String :=
  fields "FieldSpec" [("name", text f.name), ("ty", text f.type), ("default", option f.default)]

/-- The text of a removed field. -/
def RemoveSpec.dump (r : RemoveSpec) : String :=
  fields "RemoveSpec" [("name", text r.name), ("default", option r.default)]

/-- The text of a changed field. -/
def ChangeSpec.dump (c : ChangeSpec) : String :=
  fields "ChangeSpec" [("name", text c.name), ("ty", text c.type)]

/-- The text of one step of a history. -/
def VersionDelta.dump (d : VersionDelta) : String :=
  fields "VersionDelta"
    [("major", toString d.major.toNat), ("minor", toString d.minor.toNat),
     ("add", list (d.add.map FieldSpec.dump)),
     ("remove", list (d.remove.map RemoveSpec.dump)),
     ("change", list (d.change.map ChangeSpec.dump))]

/-- The text of a message. -/
def Message.dump (m : Message) : String :=
  fields "Message"
    [("id", toString m.id.toNat), ("name", text m.name), ("flags", toString m.flags.toNat),
     ("versions", list (m.versions.map VersionDelta.dump))]

/-- The lines of all messages. -/
def Definitions.dump (d : Definitions) : String :=
  String.join (d.messages.map fun m => m.dump ++ "\n")

end WireSchema
