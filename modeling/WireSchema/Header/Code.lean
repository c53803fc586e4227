/-!
# The statements of emitted C++ routines

The bodies of emitted routines are kept as trees of expressions and statements. Writing them out
is a separate step: an expression becomes a text, and a block of statements becomes lines, where
the lines inside a compound statement are one deeper than the statement itself.

## Main definitions

* `Header.Expr`, `Header.Expr.text`: expressions and their texts.
* `Header.Simple`, `Header.Block`: statements on one line, and sequences of statements.
* `Header.Line`, `Header.Block.lines`: the lines of a block.
* `Header.Routine`: a member function.
-/

namespace WireSchema.Header

/-- An expression. -/
inductive Expr
  /-- A name or a literal. -/
  | name (text : String)
  /-- A member of the current object, `this->field`. -/
  | member (field : String)
  /-- The item of an array at the loop index, `array[__i]`. -/
  | item (array : Expr)
  /-- What a pointer points to, `*e`. -/
  | deref (e : Expr)
  /-- The address of a variable, `&e`. -/
  | address (e : Expr)
  /-- A negation, `!e`. -/
  | negation (e : Expr)
  /-- A test for a value that was not set yet, `e == 0`. -/
  | isUnset (e : Expr)
  /-- A test for a value that was set, `e != 0`. -/
  | isSet (e : Expr)
  /-- A conjunction, `a && b`. -/
  | both (a b : Expr)
  /-- The size of a variable, `sizeof e`. -/
  | sizeOf (e : Expr)
  /-- A call of a function, `function(args)`. -/
  | call (function : String) (args : List Expr)
  /-- A call of a method of a value in place, `target.method(args)`. -/
  | onValue (target : Expr) (method : String) (args : List Expr)
  /-- A call of a method behind a pointer, `target->method(args)`. -/
  | onPointer (target : Expr) (method : String) (args : List Expr)
  /-- A new value on the heap, `new type(args)`. -/
  | construct (type : String) (args : List Expr)
  /-- A new array on the heap, `new type[count]()`. -/
  | constructArray (type : String) (count : Expr)
  deriving Repr

/-- Is the expression one that has to be put into parentheses before a method is called on it? -/
def Expr.needsParens : Expr → Bool
  | .deref _ => true
  | _ => false

/-- A text, in parentheses if need be. -/
def parenthesize (needed : Bool) (text : String) : String :=
  if needed then "(" ++ text ++ ")" else text

mutual

/-- The text of an expression. -/
def Expr.text : Expr → String
  | .name s => s
  | .member f => "this->" ++ f
  | .item a => a.text ++ "[__i]"
  | .deref e => "*" ++ e.text
  | .address e => "&" ++ e.text
  | .negation e => "!" ++ e.text
  | .isUnset e => e.text ++ " == 0"
  | .isSet e => e.text ++ " != 0"
  | .both a b => a.text ++ " && " ++ b.text
  | .sizeOf e => "sizeof " ++ e.text
  | .call f args => f ++ "(" ++ ", ".intercalate (argTexts args) ++ ")"
  | .onValue e m args =>
    parenthesize e.needsParens e.text ++ "." ++ m ++ "(" ++ ", ".intercalate (argTexts args) ++ ")"
  | .onPointer e m args =>
    parenthesize e.needsParens e.text ++ "->" ++ m ++ "(" ++ ", ".intercalate (argTexts args) ++
      ")"
  | .construct type args => "new " ++ type ++ "(" ++ ", ".intercalate (argTexts args) ++ ")"
  | .constructArray type count => "new " ++ type ++ "[" ++ count.text ++ "]()"

/-- The texts of arguments. -/
def argTexts : List Expr → List String
  | [] => []
  | e :: es => e.text :: argTexts es

end

/-- A statement on one line. -/
inductive Simple
  /-- A new variable, `type name = value;`. -/
  | declare (type name : String) (value : Expr)
  /-- An assignment, `target = value;`. -/
  | assign (target value : Expr)
  /-- An increase, `target += value;`. -/
  | increase (target value : Expr)
  /-- An expression run for its effect. -/
  | run (e : Expr)
  /-- The release of a value on the heap, `delete e;`. -/
  | free (e : Expr)
  /-- The release of an array on the heap, `delete[] e;`. -/
  | freeArray (e : Expr)
  /-- The end of the routine with a result, `return e;`. -/
  | give (e : Expr)
  deriving Repr

/-- The text of a statement on one line. -/
def Simple.text : Simple → String
  | declare type name value => type ++ " " ++ name ++ " = " ++ value.text ++ ";"
  | assign target value => target.text ++ " = " ++ value.text ++ ";"
  | increase target value => target.text ++ " += " ++ value.text ++ ";"
  | run e => e.text ++ ";"
  | free e => "delete " ++ e.text ++ ";"
  | freeArray e => "delete[] " ++ e.text ++ ";"
  | give e => "return " ++ e.text ++ ";"

/-- A sequence of statements. -/
inductive Block
  /-- No more statements. -/
  | done
  /-- A statement on one line, and the statements after it. -/
  | step (s : Simple) (rest : Block)
  /-- Statements that are run if a condition holds, and the statements after them. -/
  | when (condition : Expr) (body rest : Block)
  /-- Statements that are run for every item of an array of `count` items, and the statements
  after them. -/
  | each (count : Expr) (body rest : Block)
  deriving Repr

namespace Block

/-- One sequence of statements after another. -/
def append : Block → Block → Block
  | done, b => b
  | step s rest, b => step s (rest.append b)
  | when c body rest, b => when c body (rest.append b)
  | each n body rest, b => each n body (rest.append b)

instance : Append Block := ⟨append⟩

/-- A block of statements on one line each. -/
def ofList : List Simple → Block
  | [] => done
  | s :: ss => step s (ofList ss)

/-- Blocks one after another. -/
def concat : List Block → Block
  | [] => done
  | b :: bs => b ++ concat bs

end Block

/-- A line of code with the number of tabs before it. -/
structure Line where
  depth : Nat
  text : String
  deriving DecidableEq, Repr

/-- The text of a line with its tabs and its end. -/
def Line.render (l : Line) : String :=
  String.ofList (List.replicate l.depth '\t') ++ l.text ++ "\n"

/-- The texts of lines, one after another. -/
def renderLines (lines : List Line) : String :=
  String.join (lines.map Line.render)

/-- The first line of a loop over `count` items. -/
def loopHead (count : Expr) : String :=
  "for (unsigned char __i = 0; __i < " ++ count.text ++ "; __i++) \x7b"

/-- The first line of a conditional statement. -/
def whenHead (condition : Expr) : String :=
  "if (" ++ condition.text ++ ") \x7b"

/-- The lines of a block at a depth. -/
def Block.lines (depth : Nat) : Block → List Line
  | done => []
  | step s rest => ⟨depth, s.text⟩ :: rest.lines depth
  | when c body rest =>
    ⟨depth, whenHead c⟩ :: body.lines (depth + 1) ++ ⟨depth, "\x7d"⟩ :: rest.lines depth
  | each n body rest =>
    ⟨depth, loopHead n⟩ :: body.lines (depth + 1) ++ ⟨depth, "\x7d"⟩ :: rest.lines depth

/-- A member function. -/
structure Routine where
  /-- Its result, name and parameters. -/
  signature : String
  body : Block
  deriving Repr

/-- The lines of a member function at a depth. -/
def Routine.lines (depth : Nat) (r : Routine) : List Line :=
  ⟨depth, r.signature ++ " \x7b"⟩ :: r.body.lines (depth + 1) ++ [⟨depth, "\x7d"⟩]

end WireSchema.Header
