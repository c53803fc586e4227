import WireSchema.Text.Hex

/-!
# Blanks, comments, strings and keys of TOML

The parts of a TOML document below its values. Each reader takes the characters that are left and
gives what it has read together with the characters after it.

## Main definitions

* `skipBlanks`, `skipTrivia`, `endLine?`: what may stand between the parts of a document.
* `readString?`: a string in one of its four forms.
* `readKey?`, `readKeyPath?`: a key, and keys separated by dots.
-/

namespace WireSchema.Toml

/-! ### Blanks and comments -/

/-- The blanks of TOML: a space or a tab. -/
def isBlank (c : Char) : Bool :=
  c == ' ' || c == '\t'

/-- A character that may stand in a comment or between quotes: a tab, or any character that is
not a control character. -/
def isPlain (c : Char) : Bool :=
  c == '\t' || (0x20 ≤ c.toNat && c.toNat != 0x7F)

/-- The characters after the blanks. -/
def skipBlanks (cs : List Char) : List Char :=
  cs.dropWhile isBlank

/-- The characters after blanks, line ends and comments; `inComment` tells whether a comment has
begun. Nothing if a comment holds a control character. -/
def skipTriviaFrom (inComment : Bool) : List Char → Option (List Char)
  | [] => some []
  | '\n' :: cs => skipTriviaFrom false cs
  | '\r' :: '\n' :: cs => skipTriviaFrom false cs
  | c :: cs =>
    if inComment then
      if isPlain c then skipTriviaFrom true cs else none
    else if isBlank c then skipTriviaFrom false cs
    else if c == '#' then skipTriviaFrom true cs
    else some (c :: cs)

/-- The characters after blanks, line ends and comments. -/
def skipTrivia (cs : List Char) : Option (List Char) :=
  skipTriviaFrom false cs

/-- The characters after the end of the line, which only blanks and a comment may precede. -/
def endLine? (cs : List Char) : Option (List Char) :=
  let rest := match skipBlanks cs with
    | '#' :: cs => cs.dropWhile isPlain
    | cs => cs
  match rest with
  | [] => some []
  | '\n' :: cs => some cs
  | '\r' :: '\n' :: cs => some cs
  | _ => none

/-! ### Escapes -/

/-- The number written by hexadecimal digits. -/
def hexNumber? (cs : List Char) : Option Nat :=
  cs.foldlM (fun n c => (Text.hexDigit? c).map (16 * n + ·)) 0

/-- The character of a code point, unless it is a surrogate or too large. -/
def scalarChar? (n : Nat) : Option Char :=
  if n.isValidChar then some (Char.ofNat n) else none

/-- The character whose code point is written by hexadecimal digits. -/
def hexChar? (cs : List Char) : Option Char :=
  (hexNumber? cs).bind scalarChar?

/-- The character that a backslash and one letter stand for. -/
def shortEscape? : Char → Option Char
  | 'b' => some '\x08'
  | 't' => some '\t'
  | 'n' => some '\n'
  | 'f' => some '\x0c'
  | 'r' => some '\r'
  | 'e' => some '\x1b'
  | '"' => some '"'
  | '\\' => some '\\'
  | _ => none

/-! ### Strings -/

/-- The rest of a string in double quotes. -/
def basicBody? : List Char → Option (List Char × List Char)
  | [] => none
  | '"' :: cs => some ([], cs)
  | '\\' :: 'x' :: a :: b :: cs => do
    let c ← hexChar? [a, b]
    let (body, rest) ← basicBody? cs
    return (c :: body, rest)
  | '\\' :: 'u' :: a :: b :: c :: d :: cs => do
    let x ← hexChar? [a, b, c, d]
    let (body, rest) ← basicBody? cs
    return (x :: body, rest)
  | '\\' :: 'U' :: a :: b :: c :: d :: e :: f :: g :: h :: cs => do
    let x ← hexChar? [a, b, c, d, e, f, g, h]
    let (body, rest) ← basicBody? cs
    return (x :: body, rest)
  | '\\' :: c :: cs => do
    let x ← shortEscape? c
    let (body, rest) ← basicBody? cs
    return (x :: body, rest)
  | c :: cs => do
    guard (isPlain c && c != '\\')
    let (body, rest) ← basicBody? cs
    return (c :: body, rest)

/-- The rest of a string in single quotes. -/
def literalBody? : List Char → Option (List Char × List Char)
  | [] => none
  | c :: cs =>
    if c == '\x27' then some ([], cs)
    else do
      guard (isPlain c)
      let (body, rest) ← literalBody? cs
      return (c :: body, rest)

/-- Do only blanks stand before the end of the line? -/
def endsLine (cs : List Char) : Bool :=
  match skipBlanks cs with
  | '\n' :: _ => true
  | '\r' :: '\n' :: _ => true
  | _ => false

/-- The rest of a string in three double quotes. After a backslash at the end of a line, `folding`
passes over all blanks and line ends. One or two quotes may stand inside the string, also right
before its end. -/
def multilineBasicBody? (folding : Bool) : List Char → Option (List Char × List Char)
  | [] => none
  | '"' :: '"' :: '"' :: '"' :: '"' :: cs => some (['"', '"'], cs)
  | '"' :: '"' :: '"' :: '"' :: cs => some (['"'], cs)
  | '"' :: '"' :: '"' :: cs => some ([], cs)
  | '\\' :: 'x' :: a :: b :: cs => do
    let c ← hexChar? [a, b]
    let (body, rest) ← multilineBasicBody? false cs
    return (c :: body, rest)
  | '\\' :: 'u' :: a :: b :: c :: d :: cs => do
    let x ← hexChar? [a, b, c, d]
    let (body, rest) ← multilineBasicBody? false cs
    return (x :: body, rest)
  | '\\' :: 'U' :: a :: b :: c :: d :: e :: f :: g :: h :: cs => do
    let x ← hexChar? [a, b, c, d, e, f, g, h]
    let (body, rest) ← multilineBasicBody? false cs
    return (x :: body, rest)
  | '\\' :: cs =>
    if endsLine cs then multilineBasicBody? true cs
    else
      match cs with
      | [] => none
      | c :: cs => do
        let x ← shortEscape? c
        let (body, rest) ← multilineBasicBody? false cs
        return (x :: body, rest)
  | '\r' :: '\n' :: cs =>
    if folding then multilineBasicBody? true cs
    else do
      let (body, rest) ← multilineBasicBody? false cs
      return ('\r' :: '\n' :: body, rest)
  | c :: cs =>
    if folding && (isBlank c || c == '\n') then multilineBasicBody? true cs
    else do
      guard (isPlain c || c == '\n')
      let (body, rest) ← multilineBasicBody? false cs
      return (c :: body, rest)

/-- The rest of a string in three single quotes. -/
def multilineLiteralBody? : List Char → Option (List Char × List Char)
  | [] => none
  | '\x27' :: '\x27' :: '\x27' :: '\x27' :: '\x27' :: cs => some (['\x27', '\x27'], cs)
  | '\x27' :: '\x27' :: '\x27' :: '\x27' :: cs => some (['\x27'], cs)
  | '\x27' :: '\x27' :: '\x27' :: cs => some ([], cs)
  | '\r' :: '\n' :: cs => do
    let (body, rest) ← multilineLiteralBody? cs
    return ('\r' :: '\n' :: body, rest)
  | c :: cs => do
    guard (isPlain c || c == '\n')
    let (body, rest) ← multilineLiteralBody? cs
    return (c :: body, rest)

/-- The characters after a line end that directly follows the opening quotes. -/
def skipFirstLineEnd : List Char → List Char
  | '\n' :: cs => cs
  | '\r' :: '\n' :: cs => cs
  | cs => cs

/-- A string on one line. -/
def readLineString? : List Char → Option (List Char × List Char)
  | '"' :: cs => basicBody? cs
  | '\x27' :: cs => literalBody? cs
  | _ => none

/-- A string in one of its four forms. -/
def readString? : List Char → Option (List Char × List Char)
  | '"' :: '"' :: '"' :: cs => multilineBasicBody? false (skipFirstLineEnd cs)
  | '\x27' :: '\x27' :: '\x27' :: cs => multilineLiteralBody? (skipFirstLineEnd cs)
  | cs => readLineString? cs

/-! ### Keys -/

/-- A character of a key without quotes. -/
def isBareKeyChar (c : Char) : Bool :=
  c.isAlphanum || c == '_' || c == '-'

/-- A key, with or without quotes. -/
def readKey? (cs : List Char) : Option (String × List Char) :=
  match cs.takeWhile isBareKeyChar with
  | [] => (readLineString? cs).map fun (key, rest) => (String.ofList key, rest)
  | key => some (String.ofList key, cs.dropWhile isBareKeyChar)

/-- At most `fuel` keys separated by dots. -/
def readKeys? : (fuel : Nat) → List Char → Option (List String × List Char)
  | 0, _ => none
  | fuel + 1, cs => do
    let (key, rest) ← readKey? (skipBlanks cs)
    match skipBlanks rest with
    | '.' :: rest =>
      let (keys, rest) ← readKeys? fuel rest
      return (key :: keys, rest)
    | rest => return ([key], rest)

/-- Keys separated by dots, with the blanks around them. -/
def readKeyPath? (cs : List Char) : Option (List String × List Char) :=
  readKeys? (cs.length + 1) cs

end WireSchema.Toml
