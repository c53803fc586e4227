import WireSchema.Text.Hex

/-!
# The log of a run

A run of the compiler leaves a list of records behind, also when it fails. A record is kept as
what happened; its level and its text are read off it. `Logged` is a result together with the
records that were made on the way to it.

## Main definitions

* `Level`, `Record`, `Record.level`, `Record.text`: one entry of the log.
* `Logged`: an outcome and its log, with `Logged.pure`, `Logged.bind` and the monad they make,
  and `Logged.bindPartial` for runs that need not end.
-/

namespace WireSchema

/-- The importance of a log record. -/
inductive Level
  | info
  | debug
  | warn
  deriving DecidableEq, Repr

/-- The name of a level. -/
def Level.name : Level → String
  | info => "INFO"
  | debug => "DEBUG"
  | warn => "WARN"

/-- One entry of the log. -/
inductive Record
  /-- The delta `version` changes a field that is not live. -/
  | unknownChange (version field : String)
  /-- A message has the tag of an earlier message. -/
  | tagReused (message : String) (tag : UInt8) (earlier : String)
  /-- The history of a message was replayed. -/
  | replayed (message : String) (version : UInt8) (fields : Nat)
  /-- A backend starts to emit a schema. -/
  | generating (objects messages : Nat) (tag : String)
  /-- The command has found its backend. -/
  | usingBackend (tag : String)
  /-- A schema file is about to be read. -/
  | loading (path : String)
  /-- The output was written. -/
  | wrote (path : String)
  deriving DecidableEq, Repr

namespace Record

/-- The importance of a record. -/
def level : Record → Level
  | unknownChange .. => .debug
  | tagReused .. => .warn
  | replayed .. => .debug
  | generating .. => .info
  | usingBackend _ => .info
  | loading _ => .info
  | wrote _ => .info

/-- The text of a record. -/
def text : Record → String
  | unknownChange version field =>
    s!"version {version}: change of unknown field '{field}' inserted at index 0"
  | tagReused message tag earlier =>
    s!"message '{message}' reuses type tag {hexByte tag} already taken by '{earlier}'"
  | replayed message version fields =>
    s!"message '{message}' resolved to version {version.toNat} with {fields} fields"
  | generating objects messages tag =>
    s!"generating {objects} objects and {messages} messages with the '{tag}' backend"
  | usingBackend tag => s!"using the '{tag}' backend"
  | loading path => s!"loading schema file {path}"
  | wrote path => s!"wrote {path}"

end Record

/-- An outcome and the records made on the way to it. -/
structure Logged (ε α : Type) where
  log : List Record
  outcome : Except ε α

namespace Logged

variable {ε ε' α β : Type}

/-- An outcome without records. -/
def ofExcept (r : Except ε α) : Logged ε α := ⟨[], r⟩

/-- A value without records. -/
def pure (a : α) : Logged ε α := ⟨[], .ok a⟩

/-- Go on with a value; an error ends the run and keeps the records made so far. -/
def bind (x : Logged ε α) (f : α → Logged ε β) : Logged ε β :=
  match x.outcome with
  | .error e => ⟨x.log, .error e⟩
  | .ok a =>
    let y := f a
    ⟨x.log ++ y.log, y.outcome⟩

/-- Go on with a value to a run that need not end; an error ends the run. -/
def bindPartial (x : Logged ε α) (f : α → Option (Logged ε β)) : Option (Logged ε β) :=
  match x.outcome with
  | .error e => some ⟨x.log, .error e⟩
  | .ok a => (f a).map fun y => ⟨x.log ++ y.log, y.outcome⟩

instance : Monad (Logged ε) where
  pure := Logged.pure
  bind := Logged.bind

/-- End the run with an error. -/
def fail (e : ε) : Logged ε α := ⟨[], .error e⟩

/-- Make one record. -/
def record (r : Record) : Logged ε Unit := ⟨[r], .ok ()⟩

/-- Restate the error of a run. -/
def mapError (f : ε → ε') (x : Logged ε α) : Logged ε' α :=
  ⟨x.log, x.outcome.mapError f⟩

end Logged

end WireSchema
