import WireSchema.Module.Code
import WireSchema.Module.Field

/-!
# The four routines of an emitted Rust struct

Every struct can measure, read, write and dispose of its fields. Each of the four routines handles
the fields in order, by their kinds. The traits that the routines use are found below the path of
the runtime library.

## Main definitions

* `Module.lengthOf`, `Module.readOf`, `Module.writeOf`, `Module.disposeOf`: the statements for one
  field.
* `Module.lengthRoutine`, `Module.deserializeRoutine`, `Module.serializeRoutine`,
  `Module.disposeRoutine`: the routines for a list of fields.
* `Module.routines`: the four routines in the order in which they are emitted.
-/

namespace WireSchema.Module

open Block

/-! ### Names and paths -/

/-- A name or a literal. -/
def word (s : String) : Expr := .name [.word s]

/-- The serializer. -/
def serializer : Expr := word "serializer"

/-- The stream that is written to. -/
def stream : Expr := word "stream"

/-- The present optional value of an expression. -/
def present (e : Expr) (trailing : Bool) : Expr :=
  .call (.name (optionCase "Some")) [e] trailing

/-- The absent optional value. -/
def absent : Expr := .name (optionCase "None")

/-- The function that gives the first value of a type. -/
def defaultFunction : Expr := .name (path ["core", "default", "Default", "default"])

/-- The first value of a type. -/
def defaultValue : Expr := .call defaultFunction [] false

/-- A name below the path of the runtime library. -/
def runtimeName (runtime : Tokens) (names : List String) : Tokens :=
  runtime ++ path names

/-- A function of the runtime library for the scalars of a type,
`< type as runtime :: Scalar > :: function`. -/
def scalarFunction (runtime type : Tokens) (function : String) : Expr :=
  .name (tokens ["<"] ++ type ++ tokens ["as"] ++ runtimeName runtime ["Scalar"] ++
    tokens [">", "::", function])

/-- The read of a scalar. -/
def readScalar (runtime type : Tokens) : Expr :=
  .call (scalarFunction runtime type "read") [serializer] false

/-- The field of the current object. -/
def target (f : Field) : Expr := .field f.ident

/-! ### Length -/

/-- The addition of the size of a field. What can own heap memory is measured by the runtime
library. -/
def lengthOf (runtime : Tokens) (f : Field) : Block :=
  let add (e : Expr) : Block :=
    assign (word "len") (.method (word "len") "wrapping_add" [e]) done
  let measured :=
    add (.call (.name (runtimeName runtime ["Measure", "measure"]))
      [.borrow (target f), serializer] false)
  let fixed :=
    add (.cast
      (.call
        (.name (path ["core", "mem", "size_of"] ++ [.word "::", .word "<"] ++ f.value.tokens ++
          [.word ">"]))
        [] false)
      "u8")
  match f.kind with
  | .array => measured
  | .builtin => if f.plan.disposable then measured else fixed
  | .nested => fixed
  | .pointer => measured

/-- The routine that measures all fields. -/
def lengthRoutine (runtime : Tokens) (fields : List Field) : Routine where
  name := "length"
  parameters :=
    tokens ["&", "self", ",", "serializer", ":", "&", "dyn"] ++
      runtimeName runtime ["Serializer"]
  result := some [.word "u8"]
  body :=
    bind (tokens ["mut", "len", ":", "u8"]) (word "0") done ++
      concat (fields.map (lengthOf runtime)) ++
      value (word "len")

/-! ### Reading -/

/-- The end of a failed read; with `rollback` the fields read so far are disposed of. -/
def failure (rollback : Bool) : Block :=
  (if rollback then run (.method (word "self") "dispose" []) done else done) ++
    give (word "false") done

/-- The test of the outcome of a read. -/
def orFail (rollback : Bool) (ok : Expr) : Block :=
  when (.negation ok) (failure rollback) done

/-- The read of a value from its fields. -/
def deserializeCall (e : Expr) : Expr :=
  .method e "deserialize" [serializer]

/-- Is the field not set yet? -/
def isUnset (f : Field) : Expr :=
  .method (target f) "is_none" []

/-- The list of as many first values as were counted. -/
def freshItems : Expr :=
  .method
    (.method (.group (.range (word "0") (word "count"))) "map" [.closure "_" defaultValue])
    "collect" []

/-- The read of a field. -/
def readOf (runtime : Tokens) (rollback : Bool) (f : Field) : Block :=
  match f.kind with
  | .builtin =>
    when (isUnset f)
      (cases (readScalar runtime f.value.tokens) "value"
        (assign (target f) (present (word "value") false) done)
        (failure rollback) done)
      done
  | .array =>
    when (isUnset f)
      (bindPresent "count" (readScalar runtime [.word "u8"]) (failure rollback)
        (assign (target f) (present freshItems true) done))
      (bind [.word "count"]
        (.method (.method (target f) "as_ref" []) "map_or"
          [word "0", .name (path ["std", "vec", "Vec", "len"])])
        (each "i" (.range (word "0") (word "count"))
          (bind [.word "ok"]
            (.method (.method (target f) "as_mut" []) "is_some_and"
              [.closure "items" (deserializeCall (.item (word "items") (word "i")))])
            (orFail rollback (word "ok")))
          done))
  | .pointer =>
    bind [.word "ok"]
      (deserializeCall (.method (target f) "get_or_insert_with" [defaultFunction]))
      (orFail rollback (word "ok"))
  | .nested => orFail rollback (deserializeCall (target f))

/-- The routine that reads all fields. -/
def deserializeRoutine (runtime : Tokens) (rollback : Bool) (fields : List Field) : Routine where
  name := "deserialize"
  parameters :=
    tokens ["&", "mut", "self", ",", "serializer", ":", "&", "mut", "dyn"] ++
      runtimeName runtime ["Serializer"]
  result := some [.word "bool"]
  body := concat (fields.map (readOf runtime rollback)) ++ value (word "true")

/-! ### Writing -/

/-- The write of a value by its fields. -/
def serializeCall (e : Expr) : Expr :=
  .method e "serialize" [serializer, stream]

/-- The write of a scalar of a type. -/
def writeScalar (runtime type : Tokens) (e : Expr) (trailing : Bool) : Expr :=
  .call (scalarFunction runtime type "write") [e, serializer, stream] trailing

/-- The number of items of a list, as far as a byte can count them. -/
def itemCount : Expr :=
  .method
    (.call (.name (tokens ["u8", "::", "try_from"])) [.method (word "items") "len" []] false)
    "unwrap_or" [.name (tokens ["u8", "::", "MAX"])]

/-- The items of a list that were counted. -/
def countedItems : Expr :=
  .method (.method (word "items") "iter" []) "take"
    [.call (.name (tokens ["usize", "::", "from"])) [word "count"] false]

/-- The write of a field. A scalar or a pointer that is not set is written as the first value of
its type, and an array that is not set as an empty one. -/
def writeOf (runtime : Tokens) (f : Field) : Block :=
  match f.kind with
  | .builtin =>
    run
      (writeScalar runtime f.value.tokens
        (.method (.method (target f) "as_ref" []) "unwrap_or" [.borrow defaultValue]) true)
      done
  | .array =>
    cases (.borrow (target f)) "items"
      (bind [.word "count"] itemCount
        (run (writeScalar runtime [.word "u8"] (.borrow (word "count")) false)
          (each "item" countedItems (run (serializeCall (word "item")) done) done)))
      (run (writeScalar runtime [.word "u8"] (.borrow (word "0")) false) done)
      done
  | .pointer =>
    casesValue (.borrow (target f)) "value" (serializeCall (word "value"))
      (bind (tokens ["value", ":"] ++ f.value.tokens) defaultValue
        (run (serializeCall (word "value")) done))
      done
  | .nested => run (serializeCall (target f)) done

/-- The write of what stands before the fields of a message. -/
def headerOf (runtime : Tokens) : Block :=
  run (.call (.name (runtimeName runtime ["Message", "serialize_header"]))
    [word "self", serializer, stream] false) done

/-- The routine that writes all fields, for a message after its header. -/
def serializeRoutine (runtime : Tokens) (isMessage : Bool) (fields : List Field) : Routine where
  name := "serialize"
  parameters :=
    tokens ["&", "self", ",", "serializer", ":", "&", "mut", "dyn"] ++
      runtimeName runtime ["Serializer"] ++
      tokens [",", "stream", ":", "&", "mut", "dyn"] ++
      runtimeName runtime ["Stream"]
  body :=
    (if isMessage then headerOf runtime else done) ++
      concat (fields.map (writeOf runtime))

/-! ### Disposing -/

/-- Make a field unset. -/
def unset (f : Field) : Block :=
  assign (target f) absent done

/-- The end of the memory that a field owns. -/
def disposeOf (f : Field) : Block :=
  match f.kind with
  | .array =>
    whenPresent "items" (.method (target f) "as_mut" [])
      (each "item" (.method (word "items") "iter_mut" [])
        (run (.method (word "item") "dispose" []) done) done)
      (unset f)
  | .builtin => if f.plan.disposable then unset f else done
  | .nested => done
  | .pointer => unset f

/-- The routine that disposes of all fields. -/
def disposeRoutine (fields : List Field) : Routine where
  name := "dispose"
  parameters := tokens ["&", "mut", "self"]
  body := concat (fields.map disposeOf)

/-! ### All four -/

/-- The four routines of a struct. -/
def routines (runtime : Tokens) (isMessage rollback : Bool) (fields : List Field) :
    List Routine :=
  [lengthRoutine runtime fields,
    deserializeRoutine runtime rollback fields,
    serializeRoutine runtime isMessage fields,
    disposeRoutine fields]

end WireSchema.Module
