import WireSchema.Module.Grammar
import WireSchema.Module.TypeExpr
import WireSchema.Text.WordCase

/-!
# The grammar of the program

The readers of types, paths and names with which the program emits modules.

## Main definitions

* `Module.standardGrammar`.
-/

namespace WireSchema.Module

/-- The phrase that a reader finds in a text, or the error that there is none. -/
def phrase (reader : String → Option Tokens) (expected text : String) : Except String Phrase :=
  match (reader text).bind Phrase.ofTokens? with
  | some p => .ok p
  | none => .error s!"expected {expected}"

/-- The grammar of the program. -/
def standardGrammar : Grammar where
  type := phrase parseType? "a type"
  path := phrase parsePath? "a path"
  snake name := String.ofList (Text.snake name.toList)
  constant name := String.ofList (Text.constant name.toList)

end WireSchema.Module
