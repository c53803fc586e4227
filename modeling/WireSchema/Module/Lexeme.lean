import WireSchema.Module.Token
import WireSchema.Text.Blank
import WireSchema.Text.Hex
import WireSchema.Text.Identifier

/-!
# Reading Rust source texts as lexemes

The names, types and paths that go into an emitted module are checked by reading them as Rust
source. White space and comments separate lexemes and are dropped, except that a documentation
comment is kept as a lexeme, because it stands for an attribute.

## Main definitions

* `Module.Lexeme`: a lexeme.
* `Module.skipSpace`: the text after white space and comments.
* `Module.skipLiteral?`: the text after a literal.
* `Module.lex?`: the lexemes of a text, whose brackets must be balanced.
-/

namespace WireSchema.Module

/-- A lexeme of Rust. -/
inductive Lexeme
  /-- An identifier or a keyword; a raw identifier keeps its mark `r#`. -/
  | ident (text : String)
  /-- A lifetime without its apostrophe. -/
  | lifetime (name : String)
  | literal (text : String)
  /-- A character of an operator; `joint` tells whether another one follows directly. -/
  | punct (c : Char) (joint : Bool)
  | opener (d : Delimiter)
  | closer (d : Delimiter)
  /-- A documentation comment. -/
  | doc
  deriving DecidableEq, Repr

/-! ### White space and comments -/

/-- White space between lexemes. The two direction marks belong to it. -/
def isSpace (c : Char) : Bool :=
  Text.isBlank c || c.toNat == 0x200E || c.toNat == 0x200F

/-- The text after a block comment. Comments nest; `depth` more of them are open around the
innermost one. -/
def skipBlockComment? (depth : Nat) : List Char → Option (List Char)
  | '/' :: '*' :: cs => skipBlockComment? (depth + 1) cs
  | '*' :: '/' :: cs =>
    match depth with
    | 0 => some cs
    | depth + 1 => skipBlockComment? depth cs
  | _ :: cs => skipBlockComment? depth cs
  | [] => none

/-- The text after a line comment. -/
def skipLineComment (cs : List Char) : List Char :=
  cs.dropWhile (· != '\n')

/-- Is a comment that goes on like this after `//` a documentation comment? -/
def isDocLine : List Char → Bool
  | '/' :: '/' :: _ => false
  | '/' :: _ => true
  | '!' :: _ => true
  | _ => false

/-- Is a comment that goes on like this after its opening mark a documentation comment? -/
def isDocBlock : List Char → Bool
  | '*' :: '/' :: _ => false
  | '*' :: '*' :: _ => false
  | '*' :: _ => true
  | '!' :: _ => true
  | _ => false

/-- The text after white space and comments, found in at most `fuel` steps. -/
def skipSpace : (fuel : Nat) → List Char → List Char
  | 0, cs => cs
  | fuel + 1, cs =>
    match cs with
    | '/' :: '/' :: rest =>
      if isDocLine rest then cs else skipSpace fuel (skipLineComment rest)
    | '/' :: '*' :: rest =>
      if isDocBlock rest then cs
      else
        match skipBlockComment? 0 rest with
        | some rest => skipSpace fuel rest
        | none => cs
    | c :: rest => if isSpace c then skipSpace fuel rest else cs
    | [] => []

/-- The text after a documentation comment. -/
def skipDoc? : List Char → Option (List Char)
  | '/' :: '/' :: rest => if isDocLine rest then some (skipLineComment rest) else none
  | '/' :: '*' :: rest => if isDocBlock rest then skipBlockComment? 0 rest else none
  | _ => none

/-! ### Quoted literals -/

/-- The kinds of text between quotes. -/
inductive QuotedKind
  | text
  | bytes
  | cText
  deriving DecidableEq, Repr

/-- May two characters follow `\x` in a quoted text of this kind? -/
def isHexEscape (kind : QuotedKind) (a b : Char) : Bool :=
  match Text.hexDigit? a, Text.hexDigit? b with
  | some x, some y =>
    match kind with
    | .text => x < 8
    | .bytes => true
    | .cText => 0 < 16 * x + y
  | _, _ => false

/-- May these hexadecimal digits stand between the braces of an escape for a code point? -/
def isCodePoint (cs : List Char) : Bool :=
  let digits := cs.filter (· != '_')
  !digits.isEmpty && digits.length ≤ 6 && cs.head? != some '_' &&
    match digits.mapM Text.hexDigit? with
    | some ns => Nat.isValidChar (ns.foldl (fun n d => 16 * n + d) 0)
    | none => false

/-- The text after an escape for a code point, of which `\u` has been read. -/
def skipCodePoint? : List Char → Option (List Char)
  | '\x7b' :: cs =>
    match cs.dropWhile (· != '\x7d') with
    | _ :: rest => if isCodePoint (cs.takeWhile (· != '\x7d')) then some rest else none
    | [] => none
  | _ => none

/-- A character that a backslash may stand before. -/
def isShortEscape (c : Char) : Bool :=
  c == 'n' || c == 'r' || c == 't' || c == '\\' || c == '0' || c == '\x27' || c == '"'

/-- The text after a closing double quote, found in at most `fuel` steps. -/
def skipCooked? (kind : QuotedKind) : (fuel : Nat) → List Char → Option (List Char)
  | 0, _ => none
  | fuel + 1, cs =>
    match cs with
    | [] => none
    | '"' :: rest => some rest
    | '\\' :: 'x' :: a :: b :: rest =>
      if isHexEscape kind a b then skipCooked? kind fuel rest else none
    | '\\' :: 'u' :: rest =>
      if kind == .bytes then none else (skipCodePoint? rest).bind (skipCooked? kind fuel)
    | '\\' :: '\n' :: rest => skipCooked? kind fuel rest
    | '\\' :: '\r' :: '\n' :: rest => skipCooked? kind fuel rest
    | '\\' :: c :: rest =>
      if isShortEscape c && !(kind == .cText && c == '0') then skipCooked? kind fuel rest else none
    | '\r' :: '\n' :: rest => skipCooked? kind fuel rest
    | c :: rest =>
      if c == '\r' || c == '\\' || (kind == .bytes && 0x7F < c.toNat) ||
          (kind == .cText && c.toNat == 0) then none
      else skipCooked? kind fuel rest

/-- The text after a double quote that is followed by `hashes` hash signs. -/
def skipRaw? (kind : QuotedKind) (hashes : Nat) : List Char → Option (List Char)
  | [] => none
  | c :: cs =>
    if c == '"' && (List.replicate hashes '#').isPrefixOf cs then some (cs.drop hashes)
    else if (c == '\r' && cs.head? != some '\n') || (kind == .bytes && 0x7F < c.toNat) ||
        (kind == .cText && c.toNat == 0) then none
    else skipRaw? kind hashes cs

/-- The text after a raw literal, of which the letters have been read. -/
def skipRawLiteral? (kind : QuotedKind) (cs : List Char) : Option (List Char) :=
  let hashes := (cs.takeWhile (· == '#')).length
  match cs.dropWhile (· == '#') with
  | '"' :: rest => if hashes ≤ 255 then skipRaw? kind hashes rest else none
  | _ => none

/-- The text after a suffix, which is any identifier. -/
def skipSuffix (cs : List Char) : List Char :=
  match Text.spanIdent cs with
  | some (_, rest) => rest
  | none => cs

/-- The text after the character between two single quotes, of which the first has been read. -/
def skipCharBody? (kind : QuotedKind) : List Char → Option (List Char)
  | '\\' :: 'x' :: a :: b :: rest => if isHexEscape kind a b then some rest else none
  | '\\' :: 'u' :: rest => if kind == .bytes then none else skipCodePoint? rest
  | '\\' :: c :: rest => if isShortEscape c then some rest else none
  | c :: rest => if c == '\\' || (kind == .bytes && 0x7F < c.toNat) then none else some rest
  | [] => none

/-- The text after a character literal, of which the first quote has been read. -/
def skipChar? (kind : QuotedKind) (cs : List Char) : Option (List Char) := do
  match ← skipCharBody? kind cs with
  | '\x27' :: rest => return skipSuffix rest
  | _ => none

/-- The text after a literal between quotes. -/
def skipQuoted? : List Char → Option (List Char)
  | '"' :: cs => (skipCooked? .text (cs.length + 1) cs).map skipSuffix
  | 'r' :: cs => (skipRawLiteral? .text cs).map skipSuffix
  | 'b' :: '"' :: cs => (skipCooked? .bytes (cs.length + 1) cs).map skipSuffix
  | 'b' :: 'r' :: cs => (skipRawLiteral? .bytes cs).map skipSuffix
  | 'b' :: '\x27' :: cs => skipChar? .bytes cs
  | 'c' :: '"' :: cs => (skipCooked? .cText (cs.length + 1) cs).map skipSuffix
  | 'c' :: 'r' :: cs => (skipRawLiteral? .cText cs).map skipSuffix
  | '\x27' :: cs => skipChar? .text cs
  | _ => none

/-! ### Numbers -/

/-- The text after a number that runs up to here: a suffix may follow, but no other character of
a word. -/
def endNumber? (cs : List Char) : Option (List Char) :=
  let rest := skipSuffix cs
  match rest with
  | c :: _ => if Text.isIdentMore c then none else some rest
  | [] => some rest

/-- A digit or an underscore. -/
def isDigitOrLine (c : Char) : Bool :=
  c.isDigit || c == '_'

/-- The text after an exponent, of which the letter has been read, if it has a digit. -/
def skipExponent? (cs : List Char) : Option (List Char) :=
  let cs := cs.dropWhile (· == '_')
  let cs := match cs with
    | '+' :: rest => rest
    | '-' :: rest => rest
    | _ => cs
  if (cs.takeWhile isDigitOrLine).any Char.isDigit then some (cs.dropWhile isDigitOrLine)
  else none

/-- The text after the digits of a number with a fraction or an exponent. -/
def skipFloatDigits? (cs : List Char) : Option (List Char) :=
  let rest := cs.dropWhile isDigitOrLine
  match rest with
  | '.' :: rest =>
    if (rest.head?.map fun c => c == '.' || Text.isIdentStart c).getD false then none
    else
      let afterFraction := rest.dropWhile isDigitOrLine
      match afterFraction with
      | c :: more =>
        if c == 'e' || c == 'E' then some ((skipExponent? more).getD afterFraction)
        else some afterFraction
      | [] => some afterFraction
  | c :: more => if c == 'e' || c == 'E' then skipExponent? more else none
  | [] => none

/-- The text after the digits of an integer in a base. A decimal digit that is too large for the
base is an error; a letter that is too large begins a suffix. -/
def skipDigits? (base : Nat) (cs : List Char) : Option (List Char) :=
  let isBaseDigit (c : Char) : Bool :=
    c == '_' || c.isDigit || ((Text.hexDigit? c).map fun n => decide (n < base)).getD false
  let digits := cs.takeWhile isBaseDigit
  if digits.any (fun c => c.isDigit && base ≤ c.toNat - '0'.toNat) then none
  else if digits.all (· == '_') || (base == 10 && digits.head? == some '_') then none
  else some (cs.drop digits.length)

/-- The text after a number. -/
def skipNumber? (cs : List Char) : Option (List Char) :=
  match cs with
  | c :: _ =>
    if c.isDigit then
      match (skipFloatDigits? cs).bind endNumber? with
      | some rest => some rest
      | none =>
        match cs with
        | '0' :: 'x' :: rest => (skipDigits? 16 rest).bind endNumber?
        | '0' :: 'o' :: rest => (skipDigits? 8 rest).bind endNumber?
        | '0' :: 'b' :: rest => (skipDigits? 2 rest).bind endNumber?
        | rest => (skipDigits? 10 rest).bind endNumber?
    else none
  | [] => none

/-- The text after a literal. -/
def skipLiteral? (cs : List Char) : Option (List Char) :=
  match skipQuoted? cs with
  | some rest => some rest
  | none => skipNumber? cs

/-! ### Identifiers and operators -/

/-- Words that cannot be written as raw identifiers. -/
def neverRaw : List String :=
  ["_", "super", "self", "Self", "crate"]

/-- An identifier, raw or not, and the text after it. -/
def anyIdent? : List Char → Option (List Char × List Char)
  | 'r' :: '#' :: cs => do
    let (name, rest) ← Text.spanIdent cs
    guard (!neverRaw.contains (String.ofList name))
    return ('r' :: '#' :: name, rest)
  | cs => Text.spanIdent cs

/-- Does the text begin like a literal that has gone wrong, so that no identifier is read? -/
def beginsLiteral (cs : List Char) : Bool :=
  ["r\"", "r#\"", "r##", "b\"", "b'", "br\"", "br#", "c\"", "cr\"", "cr#"].any fun s =>
    s.toList.isPrefixOf cs

/-- Is there a character of an operator at the beginning? A slash that begins a comment is
none. -/
def beginsPunct : List Char → Bool
  | '/' :: '/' :: _ => false
  | '/' :: '*' :: _ => false
  | c :: _ => "~!@#$%^&*-=+|;:,<.>/?'".toList.contains c
  | [] => false

/-- A lifetime, of which the apostrophe has been read, and the text after it. -/
def lifetime? (cs : List Char) : Option (Lexeme × List Char) := do
  let (name, rest) ← anyIdent? cs
  guard (rest.head? != some '\x27')
  guard (!(rest.head? == some '#' && !"r#".toList.isPrefixOf cs))
  return (.lifetime (String.ofList name), rest)

/-- An operator character, a lifetime or an identifier, and the text after it. -/
def word? (cs : List Char) : Option (Lexeme × List Char) :=
  if beginsPunct cs then
    match cs with
    | '\x27' :: rest => lifetime? rest
    | c :: rest => some (.punct c (beginsPunct rest), rest)
    | [] => none
  else if beginsLiteral cs then none
  else (anyIdent? cs).map fun (name, rest) => (.ident (String.ofList name), rest)

/-- The opening bracket that a character is. -/
def opener? : Char → Option Delimiter
  | '(' => some .paren
  | '[' => some .bracket
  | '\x7b' => some .brace
  | _ => none

/-- The closing bracket that a character is. -/
def closer? : Char → Option Delimiter
  | ')' => some .paren
  | ']' => some .bracket
  | '\x7d' => some .brace
  | _ => none

/-! ### Texts -/

/-- The lexemes of a text in which the brackets `stack` are open, the innermost first, found in at
most `fuel` steps. -/
def lexFrom? : (fuel : Nat) → (stack : List Delimiter) → List Char → Option (List Lexeme)
  | 0, _, _ => none
  | fuel + 1, stack, cs =>
    let cs := skipSpace cs.length cs
    match skipDoc? cs with
    | some rest => (lexFrom? fuel stack rest).map (.doc :: ·)
    | none =>
      match cs with
      | [] => if stack.isEmpty then some [] else none
      | c :: rest =>
        match opener? c, closer? c with
        | some d, _ => (lexFrom? fuel (d :: stack) rest).map (.opener d :: ·)
        | none, some d =>
          match stack with
          | top :: stack =>
            if top == d then (lexFrom? fuel stack rest).map (.closer d :: ·) else none
          | [] => none
        | none, none =>
          match skipLiteral? cs with
          | some rest =>
            let text := String.ofList (cs.take (cs.length - rest.length))
            (lexFrom? fuel stack rest).map (.literal text :: ·)
          | none => do
            let (lexeme, rest) ← word? cs
            let more ← lexFrom? fuel stack rest
            return lexeme :: more

/-- The lexemes of a text. A byte order mark in front is dropped. -/
def lex? (text : String) : Option (List Lexeme) :=
  let cs := match text.toList with
    | '\ufeff' :: cs => cs
    | cs => cs
  lexFrom? (cs.length + 1) [] cs

end WireSchema.Module
