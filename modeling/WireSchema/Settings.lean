import WireSchema.Document.Value
import WireSchema.FieldType
import WireSchema.Replay.Basic

/-!
# Settings

How types are read, how histories are replayed, and the names that emitted code uses. Every
setting has a default, and a settings document may leave out any part; it may not hold anything
else.

## Main definitions

* `Settings`, with `GenerateSettings`, `HeaderSettings` and `ModuleSettings`.
* `Settings.ofValue?`, `Settings.toValue`: settings as a document.
* `Settings.fileName`: the file in which settings are looked for.
-/

namespace WireSchema

/-- Settings that do not depend on the backend. -/
structure GenerateSettings where
  /-- How the scalar of a type text is recognised. -/
  matching : Matching := .substring
  /-- What a change of a field that is not live does. -/
  policy : ChangePolicy := .zeroIndex
  /-- Does a failed read dispose of the fields read so far? -/
  rollback : Bool := false
  deriving DecidableEq, Repr

/-- The names used by an emitted C++ header. -/
structure HeaderSettings where
  includeGuard : String := "_GENERATED"
  coreHeader : String := "OpenBattleCore.h"
  /-- The namespace around all classes. -/
  space : String := "OpenBattle"
  deriving DecidableEq, Repr

/-- The names used by an emitted Rust module. -/
structure ModuleSettings where
  /-- The path of the library that the module is written against. -/
  runtimePath : String := "openbattle_core"
  deriving DecidableEq, Repr

/-- All settings. -/
structure Settings where
  generate : GenerateSettings := {}
  header : HeaderSettings := {}
  module : ModuleSettings := {}
  deriving DecidableEq, Repr, Inhabited

/-- The file in which settings are looked for. -/
def Settings.fileName : String := "battlegen.toml"

/-! ### Reading -/

/-- Read the name of a matching mode. -/
def Matching.ofValue? (format : Format) : Value → Option Matching :=
  Value.choice? format [(substring.name, substring), (token.name, token)]

/-- Read the name of a policy. -/
def ChangePolicy.ofValue? (format : Format) : Value → Option ChangePolicy :=
  Value.choice? format [(zeroIndex.name, zeroIndex), (reject.name, reject)]

/-- Read the settings that do not depend on the backend. -/
def GenerateSettings.ofValue? (format : Format) (v : Value) : Option GenerateSettings := do
  let d : GenerateSettings := {}
  let members ←
    v.members? format true ["builtin_matching", "change_on_missing", "rollback_on_failure"]
  let matching ← defaulted? members "builtin_matching" (Matching.ofValue? format) d.matching
  let policy ← defaulted? members "change_on_missing" (ChangePolicy.ofValue? format) d.policy
  let rollback ← defaulted? members "rollback_on_failure" Value.bool? d.rollback
  return { matching, policy, rollback }

/-- Read the names for a header. -/
def HeaderSettings.ofValue? (format : Format) (v : Value) : Option HeaderSettings := do
  let d : HeaderSettings := {}
  let members ← v.members? format true ["include_guard", "core_header", "namespace"]
  let includeGuard ← defaulted? members "include_guard" Value.text? d.includeGuard
  let coreHeader ← defaulted? members "core_header" Value.text? d.coreHeader
  let space ← defaulted? members "namespace" Value.text? d.space
  return { includeGuard, coreHeader, space }

/-- Read the names for a module. -/
def ModuleSettings.ofValue? (format : Format) (v : Value) : Option ModuleSettings := do
  let d : ModuleSettings := {}
  let members ← v.members? format true ["runtime_path"]
  let runtimePath ← defaulted? members "runtime_path" Value.text? d.runtimePath
  return { runtimePath }

/-- Read all settings. -/
def Settings.ofValue? (format : Format) (v : Value) : Option Settings := do
  let members ← v.members? format true ["generate", "cpp", "rust"]
  let generate ← defaulted? members "generate" (GenerateSettings.ofValue? format) {}
  let header ← defaulted? members "cpp" (HeaderSettings.ofValue? format) {}
  let module ← defaulted? members "rust" (ModuleSettings.ofValue? format) {}
  return { generate, header, module }

/-! ### Writing -/

/-- Write all settings, also those that have their default. -/
def Settings.toValue (s : Settings) : Value :=
  .table
    [("generate", .table
      [("builtin_matching", .str s.generate.matching.name),
       ("change_on_missing", .str s.generate.policy.name),
       ("rollback_on_failure", .bool s.generate.rollback)]),
     ("cpp", .table
      [("include_guard", .str s.header.includeGuard),
       ("core_header", .str s.header.coreHeader),
       ("namespace", .str s.header.space)]),
     ("rust", .table [("runtime_path", .str s.module.runtimePath)])]

end WireSchema
