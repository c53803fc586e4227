import WireSchema.Module.Lexeme

/-!
# Identifiers of emitted Rust code

A name is an identifier if it is read as exactly one word that is not a keyword. A name that is
not is tried as a raw identifier.

## Main definitions

* `Module.isKeyword`: the words with a meaning of their own.
* `Module.identifier?`: the identifier that a name gives.
-/

namespace WireSchema.Module

/-- The words with a meaning of their own. -/
def keywords : List String :=
  ["_", "abstract", "as", "async", "await", "become", "box", "break", "const", "continue",
   "crate", "do", "dyn", "else", "enum", "extern", "false", "final", "fn", "for", "if", "impl",
   "in", "let", "loop", "macro", "match", "mod", "move", "mut", "override", "priv", "pub", "ref",
   "return", "Self", "self", "static", "struct", "super", "trait", "true", "try", "type",
   "typeof", "unsafe", "unsized", "use", "virtual", "where", "while", "yield"]

/-- Has the word a meaning of its own? -/
def isKeyword (word : String) : Bool :=
  keywords.contains word

/-- The text as one identifier. -/
def plainIdentifier? (text : String) : Option String :=
  match lex? text with
  | some [.ident word] => if isKeyword word then none else some word
  | _ => none

/-- The identifier that a name gives, raw if need be. -/
def identifier? (name : String) : Option String :=
  match plainIdentifier? name with
  | some word => some word
  | none => plainIdentifier? ("r#" ++ name)

end WireSchema.Module
