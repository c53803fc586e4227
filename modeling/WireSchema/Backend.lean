import WireSchema.Dump
import WireSchema.Header.Emit
import WireSchema.Module.Emit

/-!
# Backends and their tags

A backend emits a whole schema as one text. It is found by one of its tags in a registry, which is
a list of backends; the first backend with a tag answers to it.

## Main definitions

* `Backend`, `Backend.tags`, `Backend.emit`.
* `Registry`, `Registry.defaults`, `Registry.get`: finding a backend.
* `Registry.generate`: emit a schema by the backend of a tag.
-/

namespace WireSchema

/-- A way to emit a schema. -/
inductive Backend
  /-- A C++ header. -/
  | header
  /-- A Rust module. -/
  | module
  /-- A dump of the messages as they were declared. -/
  | dump
  deriving DecidableEq, Repr

namespace Backend

/-- The tags of a backend. -/
def tags : Backend → List String
  | header => ["c", "cpp"]
  | module => ["rust", "rs"]
  | dump => ["nil"]

/-- Emit a schema. -/
def emit (b : Backend) (g : Module.Grammar) (d : Definitions) (s : Settings) :
    Logged BuildError String :=
  match b with
  | header => Header.emit d s
  | module => Module.emit g d s
  | dump => pure d.dump

end Backend

/-- The backends that can be asked for, in the order in which they were registered. -/
structure Registry where
  backends : List Backend := []
  deriving DecidableEq, Repr

namespace Registry

/-- Register a backend after all others. -/
def register (r : Registry) (b : Backend) : Registry :=
  ⟨r.backends ++ [b]⟩

/-- The registry of all backends. -/
def defaults : Registry :=
  (((⟨[]⟩ : Registry).register .header).register .module).register .dump

/-- The number of backends. -/
def size (r : Registry) : Nat :=
  r.backends.length

/-- Is there no backend? -/
def isEmpty (r : Registry) : Bool :=
  r.backends.isEmpty

/-- The tags of all backends. -/
def tags (r : Registry) : List String :=
  r.backends.flatMap Backend.tags

/-- The first backend that has a tag. -/
def get (r : Registry) (tag : String) : Except BuildError Backend :=
  match r.backends.find? (·.tags.contains tag) with
  | some b => .ok b
  | none => .error (.unknownBackend tag r.tags)

/-- Emit a schema by the backend of a tag. -/
def generate (r : Registry) (g : Module.Grammar) (tag : String) (d : Definitions) (s : Settings) :
    Logged BuildError String := do
  let backend ← Logged.ofExcept (r.get tag)
  Logged.record (.generating d.objects.length d.messages.length tag)
  backend.emit g d s

end Registry

end WireSchema
