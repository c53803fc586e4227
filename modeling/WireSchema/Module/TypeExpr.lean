import WireSchema.Module.Identifier

/-!
# Rust types and paths in emitted code

The type of a nested field and the path of the runtime library are read as Rust source and written
as tokens again. The tokens are the ones that were read, except that the lifetimes among the
arguments of a type come before its other arguments.

## Main definitions

* `Module.Arg`, `Module.printArgs`: the arguments of a type between angle brackets.
* `Module.type?`, `Module.pathFrom?`: a type or a path at the beginning of a sequence of lexemes.
* `Module.parseType?`, `Module.parsePath?`: a text that is a type or a path.
-/

namespace WireSchema.Module

/-! ### Lexemes -/

/-- The lexemes after two colons. -/
def skipColons? : List Lexeme → Option (List Lexeme)
  | .punct ':' true :: .punct ':' _ :: rest => some rest
  | _ => none

/-- The lexemes after one operator character. -/
def skipPunct? (c : Char) : List Lexeme → Option (List Lexeme)
  | .punct d _ :: rest => if c == d then some rest else none
  | _ => none

/-- The lexemes after an arrow. -/
def skipArrow? : List Lexeme → Option (List Lexeme)
  | .punct '-' true :: .punct '>' _ :: rest => some rest
  | _ => none

/-- Do the lexemes begin with arguments between angle brackets? A comparison is none. -/
def beginsArgs : List Lexeme → Bool
  | .punct '<' true :: .punct '=' _ :: _ => false
  | .punct '<' true :: .punct '<' true :: .punct '=' _ :: _ => false
  | .punct '<' _ :: _ => true
  | _ => false

/-- Words that are path segments although they are keywords, and take no arguments. -/
def bareSegments : List String :=
  ["super", "self", "crate", "try"]

/-- May a path begin with the word? -/
def beginsPath (word : String) : Bool :=
  !isKeyword word || ["super", "self", "Self", "crate"].contains word

/-- May a bound come next? -/
def beginsBound : List Lexeme → Bool
  | .ident _ :: _ => true
  | .lifetime _ :: _ => true
  | .punct '?' _ :: _ => true
  | .opener .paren :: _ => true
  | ls => (skipColons? ls).isSome

/-! ### Arguments -/

/-- The kinds of arguments of a type, in the order in which they are printed. -/
inductive ArgKind
  | lifetime
  | value
  | binding
  deriving DecidableEq, Repr

/-- An argument of a type. -/
structure Arg where
  kind : ArgKind
  tokens : Tokens
  /-- Does a comma follow? -/
  comma : Bool

/-- The tokens of an argument with its comma. -/
def Arg.print (a : Arg) : Tokens :=
  a.tokens ++ if a.comma then [.word ","] else []

/-- Add an argument to tokens after which a comma is missing unless `closed`. -/
def Arg.addTo (acc : Tokens × Bool) (a : Arg) : Tokens × Bool :=
  let (ts, closed) := acc
  (ts ++ (if closed || a.kind == .lifetime then [] else [.word ","]) ++ a.print, a.comma)

/-- The arguments of a type in the order of their kinds. -/
def printArgs (args : List Arg) : Tokens :=
  let ordered :=
    args.filter (·.kind == .lifetime) ++ args.filter (·.kind == .value) ++
      args.filter (·.kind == .binding)
  (ordered.foldl Arg.addTo ([], true)).1

/-- The token of a lifetime. -/
def lifetimeToken (name : String) : Token :=
  .word ("'" ++ name)

/-- A literal, perhaps with a minus sign, or a truth value. -/
def constant? : List Lexeme → Option (Token × List Lexeme)
  | .literal text :: rest => some (.word text, rest)
  | .ident "true" :: rest => some (.word "true", rest)
  | .ident "false" :: rest => some (.word "false", rest)
  | .punct '-' _ :: .literal text :: rest =>
    if (text.toList.head?.map Char.isDigit).getD false then some (.word ("-" ++ text), rest)
    else none
  | _ => none

/-! ### Types and paths -/

mutual

/-- A type. With `plus`, bounds may be joined to it by plus signs. -/
def type? : (fuel : Nat) → (plus : Bool) → List Lexeme → Option (Tokens × List Lexeme)
  | 0, _, _ => none
  | fuel + 1, plus, ls =>
    match ls with
    | .opener .paren :: .closer .paren :: rest => some (parens [], rest)
    | .opener .paren :: rest => do
      let (first, rest) ← type? fuel true rest
      match rest with
      | .closer .paren :: rest => return (parens first, rest)
      | .punct ',' _ :: rest =>
        let (others, rest) ← typeList? fuel rest
        return (parens (first ++ [.word ","] ++ others), rest)
      | _ => none
    | .opener .bracket :: rest => do
      let (item, rest) ← type? fuel true rest
      match rest with
      | .closer .bracket :: rest => return (brackets item, rest)
      | .punct ';' _ :: rest =>
        let (count, rest) ← length? fuel rest
        match rest with
        | .closer .bracket :: rest => return (brackets (item ++ [.word ";"] ++ count), rest)
        | _ => none
      | _ => none
    | .punct '!' joint :: rest =>
      if joint && (skipPunct? '=' rest).isSome then none else some ([.word "!"], rest)
    | .punct '&' _ :: rest => do
      let (life, rest) := match rest with
        | .lifetime name :: rest => ([lifetimeToken name], rest)
        | rest => ([], rest)
      let (mutability, rest) := match rest with
        | .ident "mut" :: rest => ([Token.word "mut"], rest)
        | rest => ([], rest)
      let (inner, rest) ← type? fuel false rest
      return ([.word "&"] ++ life ++ mutability ++ inner, rest)
    | .punct '*' _ :: .ident word :: rest =>
      if word == "const" || word == "mut" then do
        let (inner, rest) ← type? fuel false rest
        return ([.word "*", .word word] ++ inner, rest)
      else none
    | .ident "_" :: rest => some ([.word "_"], rest)
    | .ident "dyn" :: rest => do
      let (bounds, rest) ← bounds? fuel plus rest
      return (.word "dyn" :: bounds, rest)
    | .ident "impl" :: rest => do
      let (bounds, rest) ← bounds? fuel plus rest
      return (.word "impl" :: bounds, rest)
    | .ident "fn" :: .opener .paren :: rest => do
      let (args, rest) ← typeList? fuel rest
      let (result, rest) ← result? fuel rest
      return ([.word "fn"] ++ parens args ++ result, rest)
    | .ident word :: _ => if beginsPath word then objectType? fuel plus ls else none
    | .punct ':' _ :: _ => objectType? fuel plus ls
    | _ => none

/-- A path, or bounds that begin with one. -/
def objectType? : (fuel : Nat) → (plus : Bool) → List Lexeme → Option (Tokens × List Lexeme)
  | 0, _, _ => none
  | fuel + 1, plus, ls => do
    let (first, rest) ← pathFrom? fuel ls
    match rest with
    | .punct '+' _ :: more =>
      if !plus then return (first, rest)
      else if beginsBound more then
        let (others, rest) ← moreBounds? fuel true more
        return (first ++ [.word "+"] ++ others, rest)
      else return (first ++ [.word "+"], more)
    | rest => return (first, rest)

/-- Types separated by commas, up to a closing parenthesis. -/
def typeList? : (fuel : Nat) → List Lexeme → Option (Tokens × List Lexeme)
  | 0, _ => none
  | _, .closer .paren :: rest => some ([], rest)
  | fuel + 1, ls => do
    let (first, rest) ← type? fuel true ls
    match rest with
    | .closer .paren :: rest => return (first, rest)
    | .punct ',' _ :: rest =>
      let (others, rest) ← typeList? fuel rest
      return (first ++ [.word ","] ++ others, rest)
    | _ => none

/-- The result type of a function, if there is one. -/
def result? : (fuel : Nat) → List Lexeme → Option (Tokens × List Lexeme)
  | 0, _ => none
  | fuel + 1, ls =>
    match skipArrow? ls with
    | some rest => do
      let (result, rest) ← type? fuel false rest
      return (.word "->" :: result, rest)
    | none => some ([], ls)

/-- The number of items of an array: a literal or a path. -/
def length? : (fuel : Nat) → List Lexeme → Option (Tokens × List Lexeme)
  | 0, _ => none
  | fuel + 1, ls =>
    match ls with
    | .literal text :: rest => some ([.word text], rest)
    | ls => pathFrom? fuel ls

/-- A path. -/
def pathFrom? : (fuel : Nat) → List Lexeme → Option (Tokens × List Lexeme)
  | 0, _ => none
  | fuel + 1, ls =>
    match skipColons? ls with
    | some rest => do
      let (segments, rest) ← segments? fuel rest
      return (.word "::" :: segments, rest)
    | none => segments? fuel ls

/-- The segments of a path. -/
def segments? : (fuel : Nat) → List Lexeme → Option (Tokens × List Lexeme)
  | 0, _ => none
  | fuel + 1, ls => do
    let (segment, rest) ← segment? fuel ls
    match skipColons? rest with
    | some (.opener .paren :: _) => return (segment, rest)
    | some more =>
      let (others, rest) ← segments? fuel more
      return (segment ++ [.word "::"] ++ others, rest)
    | none => return (segment, rest)

/-- One segment of a path with its arguments. -/
def segment? : (fuel : Nat) → List Lexeme → Option (Tokens × List Lexeme)
  | 0, _ => none
  | fuel + 1, ls =>
    match ls with
    | .ident word :: rest =>
      if bareSegments.contains word then some ([.word word], rest)
      else if isKeyword word && word != "Self" then none
      else if beginsArgs rest then do
        let (args, rest) ← args? fuel (rest.drop 1)
        return ([.word word, .word "<"] ++ printArgs args ++ [.word ">"], rest)
      else
        match skipColons? rest with
        | some (.punct '<' _ :: more) => do
          let (args, rest) ← args? fuel more
          return ([.word word, .word "::", .word "<"] ++ printArgs args ++ [.word ">"], rest)
        | _ => some ([.word word], rest)
    | _ => none

/-- Arguments separated by commas, up to a closing angle bracket. -/
def args? : (fuel : Nat) → List Lexeme → Option (List Arg × List Lexeme)
  | 0, _ => none
  | fuel + 1, ls =>
    match ls with
    | .punct '>' _ :: rest => some ([], rest)
    | ls => do
      let (kind, tokens, rest) ← arg? fuel ls
      match rest with
      | .punct '>' _ :: rest => return ([⟨kind, tokens, false⟩], rest)
      | .punct ',' _ :: rest =>
        let (others, rest) ← args? fuel rest
        return (⟨kind, tokens, true⟩ :: others, rest)
      | _ => none

/-- One argument: a lifetime, a literal, a type, or a name that is given a type. -/
def arg? : (fuel : Nat) → List Lexeme → Option (ArgKind × Tokens × List Lexeme)
  | 0, _ => none
  | fuel + 1, ls =>
    match ls with
    | .lifetime name :: rest =>
      if (skipPunct? '+' rest).isSome then none
      else some (.lifetime, [lifetimeToken name], rest)
    | .ident word :: .punct '=' _ :: rest =>
      if isKeyword word then none
      else
        match constant? rest with
        | some (t, rest) => some (.binding, [.word word, .word "=", t], rest)
        | none => do
          let (type, rest) ← type? fuel true rest
          return (.binding, [.word word, .word "="] ++ type, rest)
    | ls =>
      match constant? ls with
      | some (t, rest) => some (.value, [t], rest)
      | none => do
        let (type, rest) ← type? fuel true ls
        return (.value, type, rest)

/-- Bounds joined by plus signs, at least one of which is a trait. -/
def bounds? : (fuel : Nat) → (plus : Bool) → List Lexeme → Option (Tokens × List Lexeme)
  | 0, _, _ => none
  | fuel + 1, plus, ls =>
    match ls with
    | .lifetime name :: .punct '+' _ :: rest =>
      if plus && !rest.isEmpty then do
        let (others, rest) ← bounds? fuel plus rest
        return ([lifetimeToken name, .word "+"] ++ others, rest)
      else none
    | .lifetime _ :: _ => none
    | ls => moreBounds? fuel plus ls

/-- Bounds joined by plus signs. -/
def moreBounds? : (fuel : Nat) → (plus : Bool) → List Lexeme → Option (Tokens × List Lexeme)
  | 0, _, _ => none
  | fuel + 1, plus, ls => do
    let (first, rest) ← bound? fuel ls
    match rest with
    | .punct '+' _ :: more =>
      if !plus then return (first, rest)
      else if beginsBound more then
        let (others, rest) ← moreBounds? fuel plus more
        return (first ++ [.word "+"] ++ others, rest)
      else return (first ++ [.word "+"], more)
    | rest => return (first, rest)

/-- One bound: a lifetime, or a trait that may be relaxed by a question mark, put into parentheses
or applied to the arguments and the result of a function. -/
def bound? : (fuel : Nat) → List Lexeme → Option (Tokens × List Lexeme)
  | 0, _ => none
  | fuel + 1, ls =>
    match ls with
    | .lifetime name :: rest => some ([lifetimeToken name], rest)
    | .opener .paren :: rest => do
      let (inner, rest) ← traitBound? fuel rest
      match rest with
      | .closer .paren :: rest => return (parens inner, rest)
      | _ => none
    | ls => traitBound? fuel ls

/-- A trait with its arguments. -/
def traitBound? : (fuel : Nat) → List Lexeme → Option (Tokens × List Lexeme)
  | 0, _ => none
  | fuel + 1, ls => do
    let (mark, ls) := match ls with
      | .punct '?' _ :: rest => ([Token.word "?"], rest)
      | ls => ([], ls)
    let (trait, rest) ← pathFrom? fuel ls
    match rest with
    | .opener .paren :: more =>
      if trait.getLast? == some (.word ">") then return (mark ++ trait, rest)
      else
        let (args, rest) ← typeList? fuel more
        let (result, rest) ← result? fuel rest
        return (mark ++ trait ++ parens args ++ result, rest)
    | rest => return (mark ++ trait, rest)

end

/-- The steps that are enough to read a type or a path. -/
def enoughSteps (ls : List Lexeme) : Nat :=
  8 * ls.length + 8

/-- The tokens of a text that is a type. -/
def parseType? (text : String) : Option Tokens := do
  let ls ← lex? text
  let (ts, rest) ← type? (enoughSteps ls) true ls
  guard rest.isEmpty
  return ts

/-- The tokens of a text that is a path. -/
def parsePath? (text : String) : Option Tokens := do
  let ls ← lex? text
  let (ts, rest) ← pathFrom? (enoughSteps ls) ls
  guard rest.isEmpty
  return ts

end WireSchema.Module
