/-!
# Tokens of emitted Rust code

An emitted Rust module is a sequence of tokens. It is printed on one line with a space between two
tokens, except inside parentheses and square brackets next to them. The characters of one
operator, such as `::`, are one token.

## Main definitions

* `Module.Token`, `Module.Tokens`: tokens and sequences of them.
* `Module.tokens`, `Module.parens`, `Module.brackets`, `Module.braces`, `Module.path`: building
  sequences.
* `Module.render`: the text of a sequence.
-/

namespace WireSchema.Module

/-- A pair of brackets. -/
inductive Delimiter
  | paren
  | bracket
  | brace
  deriving DecidableEq, Repr

/-- The opening bracket of a pair. -/
def Delimiter.opening : Delimiter → String
  | paren => "("
  | bracket => "["
  | brace => "\x7b"

/-- The closing bracket of a pair. -/
def Delimiter.closing : Delimiter → String
  | paren => ")"
  | bracket => "]"
  | brace => "\x7d"

/-- A token. -/
inductive Token
  /-- An identifier, a literal, a lifetime or an operator. -/
  | word (text : String)
  | opener (d : Delimiter)
  | closer (d : Delimiter)
  deriving DecidableEq, Repr

/-- A sequence of tokens. -/
abbrev Tokens := List Token

/-- Tokens given by their texts. -/
def tokens (texts : List String) : Tokens :=
  texts.map .word

/-- Tokens between brackets. -/
def delimited (d : Delimiter) (ts : Tokens) : Tokens :=
  .opener d :: ts ++ [.closer d]

/-- Tokens between parentheses. -/
def parens (ts : Tokens) : Tokens := delimited .paren ts

/-- Tokens between square brackets. -/
def brackets (ts : Tokens) : Tokens := delimited .bracket ts

/-- Tokens between braces. -/
def braces (ts : Tokens) : Tokens := delimited .brace ts

/-- An absolute path. -/
def path (segments : List String) : Tokens :=
  segments.flatMap fun s => [.word "::", .word s]

/-- An attribute of the item after it. -/
def attr (ts : Tokens) : Tokens :=
  .word "#" :: brackets ts

/-- The text of a token. -/
def Token.text : Token → String
  | word s => s
  | opener d => d.opening
  | closer d => d.closing

/-- Is there no space between two tokens? -/
def Token.touches : Token → Token → Bool
  | opener .paren, _ => true
  | opener .bracket, _ => true
  | _, closer .paren => true
  | _, closer .bracket => true
  | _, _ => false

/-- The text of a sequence of tokens. -/
def render : Tokens → String
  | [] => ""
  | [t] => t.text
  | t :: u :: ts => t.text ++ (if t.touches u then "" else " ") ++ render (u :: ts)

end WireSchema.Module
