import WireSchema.FieldType
import WireSchema.Header.Code

/-!
# Chains of pointers in emitted C++

A value behind `d` pointers is reached through `d` cells on the heap. These are the expressions
that allocate such a chain, call a method of the value at its end, and release it.

## Main definitions

* `Header.allocate`: a new chain.
* `Header.through`: a pointer followed a number of times.
* `Header.invoke`: a call of a method of the value at the end of a chain.
* `Header.release`: the statements that release a chain, its end first.
-/

namespace WireSchema.Header

/-- A new value of type `base` behind `depth` pointers; without pointers, the value itself. -/
def allocate (base : String) : (depth : Nat) → Expr
  | 0 => .call base []
  | 1 => .construct base []
  | depth + 2 => .construct (base ++ FieldType.stars (depth + 1)) [allocate base (depth + 1)]

/-- What is reached from `e` by following `n` pointers. -/
def through (e : Expr) : (n : Nat) → Expr
  | 0 => e
  | n + 1 => .deref (through e n)

/-- A call of a method of the value that `e` reaches through `depth` pointers. -/
def invoke (e : Expr) (depth : Nat) (method : String) (args : List Expr) : Expr :=
  match depth with
  | 0 => .onValue e method args
  | n + 1 => .onPointer (through e n) method args

/-- The statements that release the cells between `e` and the value behind `depth` pointers, the
cell of the value first. -/
def release (e : Expr) : (depth : Nat) → List Simple
  | 0 => []
  | n + 1 => .free (through e n) :: release e n

end WireSchema.Header
