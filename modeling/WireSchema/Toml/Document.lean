import WireSchema.Toml.Scalar
import WireSchema.Toml.Section
import WireSchema.Toml.Text

/-!
# TOML documents

A document is a sequence of lines: assignments of a value to a key, and headers that open the
table that the assignments below them belong to. Line ends, comments and a comma after the last
item are allowed inside a list and inside a table between braces.

## Main definitions

* `readValue?`, `readItems?`, `readPairs?`: a value, the rest of a list, and the rest of a table
  between braces.
* `readDocument?`: the lines of a document.
* `parse?`: the document written by a text.
* `reader`: the reader of documents that the program uses.
-/

namespace WireSchema.Toml

/-- How deep lists and tables between braces may stand in one another. -/
def nestingLimit : Nat := 80

mutual

/-- A value. The lists and tables in it are nested at most `depth` deep, and it is read in at most
`fuel` steps. -/
def readValue? (depth : Nat) : (fuel : Nat) → List Char → Option (Value × List Char)
  | 0, _ => none
  | fuel + 1, cs =>
    match cs with
    | '[' :: cs =>
      match depth with
      | 0 => none
      | depth + 1 => do
        let (items, rest) ← readItems? depth fuel (← skipTrivia cs)
        return (.list items, rest)
    | '\x7b' :: cs =>
      match depth with
      | 0 => none
      | depth + 1 => do
        let (entries, rest) ← readPairs? depth fuel [] (← skipTrivia cs)
        return (.table (toEntries entries), rest)
    | '"' :: _ => (readString? cs).map fun (s, rest) => (.str (String.ofList s), rest)
    | '\x27' :: _ => (readString? cs).map fun (s, rest) => (.str (String.ofList s), rest)
    | _ => do
      let (text, rest) := spanScalar cs
      let v ← scalar? text
      return (v, rest)

/-- The rest of a list, at the beginning of an item or at its end. -/
def readItems? (depth : Nat) : (fuel : Nat) → List Char → Option (List Value × List Char)
  | 0, _ => none
  | fuel + 1, cs =>
    match cs with
    | ']' :: rest => some ([], rest)
    | cs => do
      let (v, rest) ← readValue? depth fuel cs
      match ← skipTrivia rest with
      | ',' :: rest =>
        let (items, rest) ← readItems? depth fuel (← skipTrivia rest)
        return (v :: items, rest)
      | ']' :: rest => return ([v], rest)
      | _ => none

/-- The rest of a table between braces, at the beginning of a key or at its end. -/
def readPairs? (depth : Nat) : (fuel : Nat) → Entries → List Char → Option (Entries × List Char)
  | 0, _, _ => none
  | fuel + 1, es, cs =>
    match cs with
    | '\x7d' :: rest => some (es, rest)
    | cs => do
      let (keys, rest) ← readKeyPath? cs
      let (v, rest) ← readValue? depth fuel (skipBlanks (← after? '=' rest))
      let es ← assign? es keys v
      match ← skipTrivia rest with
      | ',' :: rest => readPairs? depth fuel es (← skipTrivia rest)
      | '\x7d' :: rest => return (es, rest)
      | _ => none

end

/-- A header between brackets: the path of the table. -/
def readHeader? (cs : List Char) : Option (List String × List Char) := do
  let (path, rest) ← readKeyPath? cs
  return (path, ← after? ']' rest)

/-- At most `fuel` lines of a document. The assignments belong to the table at `path`. -/
def readLines? : (fuel : Nat) → (path : List String) → Entries → List Char → Option Entries
  | 0, _, _, _ => none
  | fuel + 1, path, es, cs => do
    match ← skipTrivia cs with
    | [] => return es
    | '[' :: '[' :: cs =>
      let (path, rest) ← readHeader? cs
      let es ← within? es (declareItem? (path.getLast?.getD "")) path.dropLast
      readLines? fuel path es (← endLine? (← after? ']' rest))
    | '[' :: cs =>
      let (path, rest) ← readHeader? cs
      let es ← within? es (declareTable? (path.getLast?.getD "")) path.dropLast
      readLines? fuel path es (← endLine? rest)
    | cs =>
      let (keys, rest) ← readKeyPath? cs
      let rest ← after? '=' rest
      let depth := if path.isEmpty then nestingLimit else nestingLimit - 1
      let (v, rest) ← readValue? depth (2 * rest.length + 2) (skipBlanks rest)
      let es ← within? es (fun es => assign? es keys v) path
      readLines? fuel path es (← endLine? rest)

/-- The characters after a byte order mark. -/
def skipByteOrderMark : List Char → List Char
  | '\ufeff' :: cs => cs
  | cs => cs

/-- The table written by a text, if the text is a TOML document. -/
def parse? (text : String) : Option Value :=
  let cs := skipByteOrderMark text.toList
  (readLines? (cs.length + 1) [] [] cs).map fun es => .table (toEntries es)

/-- The reader of documents that the program uses. -/
def reader : DocumentReader where
  value text :=
    match parse? text with
    | some v => .ok v
    | none => .error "not a TOML document"
  noSchema _ := "not a schema"
  noSettings _ := "not a table of settings"

end WireSchema.Toml
