import WireSchema.Module.Token

/-!
# What a module takes from its language

The types of nested fields and the path of the runtime library are given as texts in the language of
the module. Whether such a text is a type or a path is for a reader of that language to say, and so
is how a name is spelled in snake case. A `Grammar` holds these readers. Modules are emitted with
any grammar; `Module.standardGrammar` is the one that the program uses.

What a reader finds is a phrase: tokens in which each bracket is closed.

## Main definitions

* `Module.openAfter`: the brackets that are open after tokens.
* `Module.Phrase`: tokens that close what they open.
* `Module.Grammar`: the readers.
-/

namespace WireSchema.Module

/-- The brackets that are open after tokens, the innermost first, where the brackets `opened` were
open before. There is no result if a bracket is closed that is not the innermost open one. -/
def openAfter : (opened : List Delimiter) → Tokens → Option (List Delimiter)
  | opened, [] => some opened
  | opened, .word _ :: ts => openAfter opened ts
  | opened, .opener d :: ts => openAfter (d :: opened) ts
  | [], .closer _ :: _ => none
  | d' :: opened, .closer d :: ts => if d = d' then openAfter opened ts else none

/-- Tokens that close what they open. -/
structure Phrase where
  tokens : Tokens
  closed : openAfter [] tokens = some []
  deriving DecidableEq, Repr

/-- The phrase of tokens, if they close what they open. -/
def Phrase.ofTokens? (ts : Tokens) : Option Phrase :=
  if h : openAfter [] ts = some [] then some ⟨ts, h⟩ else none

/-- The readers of a language. -/
structure Grammar where
  /-- The tokens of a type, or why a text is none. -/
  type : String → Except String Phrase
  /-- The tokens of a path, or why a text is none. -/
  path : String → Except String Phrase
  /-- A name in lower case with underscores between its words. -/
  snake : String → String
  /-- A name in upper case with underscores between its words. -/
  constant : String → String

end WireSchema.Module
