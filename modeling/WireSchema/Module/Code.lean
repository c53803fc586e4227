import WireSchema.Module.Token

/-!
# The statements of emitted Rust routines

The bodies of emitted routines are kept as trees of expressions and statements; writing them as
tokens is a separate step.

## Main definitions

* `Module.Expr`, `Module.Expr.tokens`: expressions.
* `Module.Block`, `Module.Block.tokens`: sequences of statements.
* `Module.Routine`: a method.
-/

namespace WireSchema.Module

/-- The path of one of the two cases of an optional value. -/
def optionCase (case : String) : Tokens :=
  path ["core", "option", "Option", case]

/-- An expression. -/
inductive Expr
  /-- A name, a literal or a path. -/
  | name (ts : Tokens)
  /-- A field of the current object, `self . field`. -/
  | field (ident : String)
  /-- A reference, `& e`. -/
  | borrow (e : Expr)
  /-- A negation, `! e`. -/
  | negation (e : Expr)
  /-- A range, `low .. high`. -/
  | range (low high : Expr)
  /-- An expression between parentheses. -/
  | group (e : Expr)
  /-- An item of a list, `list [index]`. -/
  | item (list index : Expr)
  /-- A number of another type, `e as type`. -/
  | cast (e : Expr) (type : String)
  /-- A function of one parameter, `| parameter | body`. -/
  | closure (parameter : String) (body : Expr)
  /-- A call of a function. With `trailing` a comma follows the last argument. -/
  | call (function : Expr) (args : List Expr) (trailing : Bool)
  /-- A call of a method, `e . method (args)`. -/
  | method (e : Expr) (method : String) (args : List Expr)
  deriving Repr

mutual

/-- The tokens of an expression. -/
def Expr.tokens : Expr → Tokens
  | .name ts => ts
  | .field ident => [.word "self", .word ".", .word ident]
  | .borrow e => .word "&" :: e.tokens
  | .negation e => .word "!" :: e.tokens
  | .range low high => low.tokens ++ [.word ".."] ++ high.tokens
  | .group e => parens e.tokens
  | .item list index => list.tokens ++ brackets index.tokens
  | .cast e type => e.tokens ++ [.word "as", .word type]
  | .closure parameter body => [.word "|", .word parameter, .word "|"] ++ body.tokens
  | .call function args trailing =>
    function.tokens ++ parens (argTokens args ++ if trailing then [.word ","] else [])
  | .method e method args => e.tokens ++ [.word ".", .word method] ++ parens (argTokens args)

/-- The tokens of arguments, separated by commas. -/
def argTokens : List Expr → Tokens
  | [] => []
  | e :: es => e.tokens ++ moreArgTokens es

/-- The tokens of arguments, each after a comma. -/
def moreArgTokens : List Expr → Tokens
  | [] => []
  | e :: es => .word "," :: e.tokens ++ moreArgTokens es

end

/-- A sequence of statements. -/
inductive Block
  /-- No more statements. -/
  | done
  /-- The value of the sequence. -/
  | value (e : Expr)
  /-- An expression run for its effect, and the statements after it. -/
  | run (e : Expr) (rest : Block)
  /-- An assignment, `target = value ;`. -/
  | assign (target value : Expr) (rest : Block)
  /-- A new variable, `let pattern = value ;`. -/
  | bind (pattern : Tokens) (value : Expr) (rest : Block)
  /-- A new variable for the value of a present optional value; if it is absent, `otherwise` is
  run and leaves the routine. -/
  | bindPresent (x : String) (value : Expr) (otherwise rest : Block)
  /-- The end of the routine with a result, `return e ;`. -/
  | give (e : Expr) (rest : Block)
  /-- Statements that are run if a condition holds. -/
  | when (condition : Expr) (body rest : Block)
  /-- Statements that are run with the value of an optional value, if it is present. -/
  | whenPresent (x : String) (value : Expr) (body rest : Block)
  /-- Statements that are run for every value of a sequence. -/
  | each (x : String) (values : Expr) (body rest : Block)
  /-- Statements for a present and for an absent optional value. -/
  | cases (value : Expr) (x : String) (present absent rest : Block)
  /-- An expression for a present and statements for an absent optional value. -/
  | casesValue (value : Expr) (x : String) (present : Expr) (absent rest : Block)
  deriving Repr

namespace Block

/-- One sequence of statements after another. What follows the value of a sequence is dropped. -/
def append : Block → Block → Block
  | done, b => b
  | value e, _ => value e
  | run e rest, b => run e (rest.append b)
  | assign t e rest, b => assign t e (rest.append b)
  | bind p e rest, b => bind p e (rest.append b)
  | bindPresent x e otherwise rest, b => bindPresent x e otherwise (rest.append b)
  | give e rest, b => give e (rest.append b)
  | when c body rest, b => when c body (rest.append b)
  | whenPresent x e body rest, b => whenPresent x e body (rest.append b)
  | each x e body rest, b => each x e body (rest.append b)
  | cases e x present absent rest, b => cases e x present absent (rest.append b)
  | casesValue e x present absent rest, b => casesValue e x present absent (rest.append b)

instance : Append Block := ⟨append⟩

/-- Blocks one after another. -/
def concat : List Block → Block
  | [] => done
  | b :: bs => b ++ concat bs

/-- The tokens of a sequence of statements. -/
def tokens : Block → Tokens
  | done => []
  | value e => e.tokens
  | run e rest => e.tokens ++ [.word ";"] ++ rest.tokens
  | assign t e rest => t.tokens ++ [.word "="] ++ e.tokens ++ [.word ";"] ++ rest.tokens
  | bind p e rest =>
    .word "let" :: p ++ [.word "="] ++ e.tokens ++ [.word ";"] ++ rest.tokens
  | bindPresent x e otherwise rest =>
    .word "let" :: optionCase "Some" ++ parens [.word x] ++ [.word "="] ++ e.tokens ++
      [.word "else"] ++ braces otherwise.tokens ++ [.word ";"] ++ rest.tokens
  | give e rest => .word "return" :: e.tokens ++ [.word ";"] ++ rest.tokens
  | when c body rest => .word "if" :: c.tokens ++ braces body.tokens ++ rest.tokens
  | whenPresent x e body rest =>
    [.word "if", .word "let"] ++ optionCase "Some" ++ parens [.word x] ++ [.word "="] ++
      e.tokens ++ braces body.tokens ++ rest.tokens
  | each x e body rest =>
    [.word "for", .word x, .word "in"] ++ e.tokens ++ braces body.tokens ++ rest.tokens
  | cases e x present absent rest =>
    .word "match" :: e.tokens ++
      braces
        (optionCase "Some" ++ parens [.word x] ++ [.word "=>"] ++ braces present.tokens ++
          optionCase "None" ++ [.word "=>"] ++ braces absent.tokens) ++
      rest.tokens
  | casesValue e x present absent rest =>
    .word "match" :: e.tokens ++
      braces
        (optionCase "Some" ++ parens [.word x] ++ [.word "=>"] ++ present.tokens ++ [.word ","] ++
          optionCase "None" ++ [.word "=>"] ++ braces absent.tokens) ++
      rest.tokens

end Block

/-- A method. -/
structure Routine where
  name : String
  parameters : Tokens
  result : Option Tokens := none
  body : Block

/-- The tokens of a method. -/
def Routine.tokens (r : Routine) : Tokens :=
  [.word "fn", .word r.name] ++ parens r.parameters ++
    (match r.result with
      | some type => .word "->" :: type
      | none => []) ++
    braces r.body.tokens

end WireSchema.Module
