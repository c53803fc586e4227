/-!
# Document values

A schema or a settings file is a document: a tree of tables and lists over texts, numbers and
truth values. The tree does not depend on the format that it was written in; `Format` holds the
two points in which the formats differ once a document has been read.

A record with named members may also be written as the list of its members in their order, and
one of several named choices may be written as its name or as a table with that name as its only
key.

## Main definitions

* `Value`: a document.
* `Format`: the rules of a format for lists in place of tables and for choices.
* `Value.text?`, `Value.bool?`, `Value.byte?`, `Value.word?`, `Value.listOf?`,
  `Value.optional?`, `Value.choice?`: reading a value of a known type.
* `Value.members?`, `required?`, `defaulted?`: reading the members of a record.
* `DocumentReader`: a reader of the texts of documents.
-/

namespace WireSchema

/-- A document. -/
inductive Value
  | null
  | bool (b : Bool)
  | int (n : Int)
  /-- A number that is not an integer. -/
  | float
  /-- A date or a time of day. -/
  | moment
  | str (s : String)
  | list (items : List Value)
  | table (entries : List (String × Value))
  deriving Repr, Inhabited

/-- A format that documents are written in. -/
inductive Format
  | toml
  | json
  deriving DecidableEq, Repr

namespace Format

/-- May a list in place of a record be longer than the record? -/
def allowsSurplus : Format → Bool
  | toml => true
  | json => false

/-- Is the value one that says nothing more, as it stands beside the name of a choice? -/
def isUnit : Format → Value → Bool
  | toml, .list [] => true
  | toml, .table [] => true
  | json, .null => true
  | _, _ => false

end Format

namespace Value

/-- A text. -/
def text? : Value → Option String
  | str s => some s
  | _ => none

/-- A truth value. -/
def bool? : Value → Option Bool
  | bool b => some b
  | _ => none

/-- An integer between 0 and 255. -/
def byte? : Value → Option UInt8
  | int n => if 0 ≤ n ∧ n < 256 then some (UInt8.ofNat n.toNat) else none
  | _ => none

/-- An integer between 0 and 2^32 - 1. -/
def word? : Value → Option UInt32
  | int n => if 0 ≤ n ∧ n < 4294967296 then some (UInt32.ofNat n.toNat) else none
  | _ => none

/-- A list, each item of which is read by `item?`. -/
def listOf? {α : Type} (item? : Value → Option α) : Value → Option (List α)
  | list items => items.mapM item?
  | _ => none

/-- A value that may be absent. -/
def optional? {α : Type} (value? : Value → Option α) : Value → Option (Option α)
  | null => some none
  | v => (value? v).map some

/-- One of several named choices. -/
def choice? {α : Type} (format : Format) (choices : List (String × α)) : Value → Option α
  | str s => choices.lookup s
  | table [(name, v)] => if format.isUnit v then choices.lookup name else none
  | _ => none

/-- The members of a record whose members are called `names`, in this order. A `closed` record
has no other members. -/
def members? (format : Format) (closed : Bool) (names : List String) :
    Value → Option (List (String × Value))
  | table entries =>
    if closed && entries.any (fun e => !names.contains e.1) then none else some entries
  | list items =>
    if names.length < items.length && !format.allowsSurplus then none
    else some (names.zip items)
  | _ => none

end Value

/-- The member `name`, which has to be there. -/
def required? {α : Type} (members : List (String × Value)) (name : String)
    (value? : Value → Option α) : Option α :=
  (members.lookup name).bind value?

/-- The member `name`, or `default` if it is not there. -/
def defaulted? {α : Type} (members : List (String × Value)) (name : String)
    (value? : Value → Option α) (default : α) : Option α :=
  match members.lookup name with
  | some v => value? v
  | none => some default

/-- A reader of documents, with the causes that it gives. -/
structure DocumentReader where
  /-- The document that a text writes, or why it writes none. -/
  value : String → Except String Value
  /-- Why a document is no schema file. -/
  noSchema : Value → String
  /-- Why a document is no settings file. -/
  noSettings : Value → String

/-- What a text writes in terms of the documents that `value?` takes; `refusal` is why it refuses
others. -/
def DocumentReader.parse {α : Type} (r : DocumentReader) (value? : Value → Option α)
    (refusal : Value → String) (text : String) : Except String α := do
  let v ← r.value text
  match value? v with
  | some a => return a
  | none => throw (refusal v)

end WireSchema
