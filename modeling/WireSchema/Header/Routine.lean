import WireSchema.Header.Member
import WireSchema.Header.Pointer

/-!
# The four routines of an emitted C++ class

Every class can measure, read, write and dispose of its fields. Each of the four routines handles
the fields in order, by their kinds.

## Main definitions

* `Header.lengthOf`, `Header.readOf`, `Header.writeOf`, `Header.disposeOf`: the statements for one
  field.
* `Header.lengthRoutine`, `Header.deserializeRoutine`, `Header.serializeRoutine`,
  `Header.disposeRoutine`: the routines for a list of fields.
* `Header.routines`: the four routines in the order in which they are emitted.
-/

namespace WireSchema.Header

open Block

/-- The parameter that holds the serializer. -/
def serializer : Expr := .name "serializer"

/-- The parameter that holds the stream which is written to. -/
def stream : Expr := .name "stream"

/-- The literal zero. -/
def zero : Expr := .name "0"

/-- The member that holds the number of items of an array field. -/
def countOf (f : PlannedField) : Expr := .member (countName f.name)

/-- The member of a field. -/
def target (f : PlannedField) : Expr := .member f.name

/-- The item of an array field at the loop index. -/
def itemOf (f : PlannedField) : Expr := .item (target f)

/-! ### Length -/

/-- The addition of the size of a field. What can own heap memory is measured by the
serializer. -/
def lengthOf (f : PlannedField) : Block :=
  let add (e : Expr) : Block := ofList [.increase (.name "len") e]
  let measured := add (.onPointer serializer "sizeOf" [target f])
  let fixed := add (.sizeOf (target f))
  match f.kind with
  | .array => add (.onPointer serializer "sizeOf" [target f, countOf f])
  | .builtin => if f.disposable then measured else fixed
  | .nested => fixed
  | .pointer => measured

/-- The routine that measures all fields. -/
def lengthRoutine (fields : List PlannedField) : Routine where
  signature := "unsigned char length(Serializer* serializer)"
  body :=
    ofList [.declare "unsigned char" "len" zero] ++
      concat (fields.map lengthOf) ++
      ofList [.give (.name "len")]

/-! ### Reading -/

/-- The end of a failed read; with `rollback` the fields read so far are disposed of. -/
def failure (rollback : Bool) : Block :=
  ofList ((if rollback then [.run (.onPointer (.name "this") "dispose" [])] else []) ++
    [.give (.name "false")])

/-- A read that ends the routine when it fails. -/
def orFail (rollback : Bool) (read : Expr) : Block :=
  when (.negation read) (failure rollback) done

/-- The read of the value that `e` reaches through `depth` pointers. -/
def deserializeCall (e : Expr) (depth : Nat) : Expr :=
  invoke e depth "deserialize" [serializer]

/-- The allocation of a chain of pointers where `e` is not set yet. -/
def allocateAt (e : Expr) (t : FieldType) : Block :=
  when (.isUnset e) (ofList [.assign e (allocate t.base t.depth)]) done

/-- The read of the count of an array field, where the field is not set yet. -/
def readCount (rollback : Bool) (f : PlannedField) : Block :=
  when (.isUnset (target f))
    (ofList [.declare "unsigned char" "__len" zero] ++
      orFail rollback (.onPointer serializer "read" [.address (.name "__len")]) ++
      ofList
        [.assign (target f) (.constructArray f.type.reference (.name "__len")),
         .assign (countOf f) (.name "__len")])
    done

/-- The read of one item of an array field. -/
def readItem (rollback : Bool) (f : PlannedField) : Block :=
  (if 0 < f.type.depth then allocateAt (itemOf f) f.type else done) ++
    orFail rollback (deserializeCall (itemOf f) f.type.depth)

/-- The read of a field. -/
def readOf (rollback : Bool) (f : PlannedField) : Block :=
  match f.kind with
  | .builtin =>
    when
      (.both (.isUnset (target f))
        (.negation (.onPointer serializer "read" [.address (target f)])))
      (failure rollback) done
  | .array => readCount rollback f ++ each (countOf f) (readItem rollback f) done
  | .pointer =>
    allocateAt (target f) f.type ++ orFail rollback (deserializeCall (target f) f.type.depth)
  | .nested => orFail rollback (deserializeCall (target f) 0)

/-- The routine that reads all fields. -/
def deserializeRoutine (rollback : Bool) (fields : List PlannedField) : Routine where
  signature := "bool deserialize(Serializer *serializer)"
  body := concat (fields.map (readOf rollback)) ++ ofList [.give (.name "true")]

/-! ### Writing -/

/-- The write of the value that `e` reaches through `depth` pointers. -/
def serializeCall (e : Expr) (depth : Nat) : Expr :=
  invoke e depth "serialize" [serializer, stream]

/-- The write of a scalar. -/
def writeScalar (e : Expr) : Block :=
  ofList [.run (.onPointer serializer "write" [e, stream])]

/-- The write of a field. -/
def writeOf (f : PlannedField) : Block :=
  match f.kind with
  | .builtin => writeScalar (target f)
  | .array =>
    writeScalar (countOf f) ++
      each (countOf f) (ofList [.run (serializeCall (itemOf f) f.type.depth)]) done
  | .pointer => ofList [.run (serializeCall (target f) f.type.depth)]
  | .nested => ofList [.run (serializeCall (target f) 0)]

/-- The routine that writes all fields; a message writes its header first. -/
def serializeRoutine (isMessage : Bool) (fields : List PlannedField) : Routine where
  signature := "void serialize(Serializer *serializer, Stream *stream)"
  body :=
    (if isMessage then ofList [.run (.call "Message::serialize" [serializer, stream])] else done) ++
      concat (fields.map writeOf)

/-! ### Disposal -/

/-- The release of what `e` holds, if it was set. -/
def whenSet (e : Expr) (body : Block) : Block :=
  when (.isSet e) body done

/-- The disposal of one item of an array field. -/
def disposeItem (f : PlannedField) : Block :=
  let dispose := invoke (itemOf f) f.type.depth "dispose" []
  if f.type.depth = 0 then ofList [.run dispose]
  else whenSet (itemOf f) (ofList (.run dispose :: release (itemOf f) f.type.depth))

/-- The disposal of a field. A field that cannot own heap memory is left as it is. -/
def disposeOf (f : PlannedField) : Block :=
  match f.kind with
  | .builtin =>
    if f.disposable then
      whenSet (target f)
        (ofList
          ((if f.type.isArray then [.freeArray (target f)] else release (target f) f.type.depth) ++
            [.assign (target f) zero]))
    else done
  | .nested => done
  | .array =>
    whenSet (target f)
      (each (countOf f) (disposeItem f)
        (ofList
          [.freeArray (target f), .assign (target f) zero, .assign (countOf f) zero]))
  | .pointer =>
    whenSet (target f) (ofList (release (target f) f.type.depth ++ [.assign (target f) zero]))

/-- The routine that disposes of all fields. -/
def disposeRoutine (fields : List PlannedField) : Routine where
  signature := "void dispose()"
  body := concat (fields.map disposeOf)

/-- The four routines of a class. -/
def routines (isMessage rollback : Bool) (fields : List PlannedField) : List Routine :=
  [lengthRoutine fields, deserializeRoutine rollback fields, serializeRoutine isMessage fields,
   disposeRoutine fields]

end WireSchema.Header
