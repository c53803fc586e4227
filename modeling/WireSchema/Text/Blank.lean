/-!
# Blank characters and the words between them

A character is *blank* when it has the Unicode property `White_Space`. Type texts are trimmed and
split at blanks, so `unsigned  int` and `unsigned int` are the same two words.

## Main definitions

* `isBlank`: the property `White_Space`.
* `trim`: a text without the blanks at its two ends.
* `words`: the maximal runs of characters that are not blank.
* `normalize`: the words of a text, separated by single spaces.
-/

namespace WireSchema.Text

/-- A character with the Unicode property `White_Space`. -/
def isBlank (c : Char) : Bool :=
  let n := c.toNat
  (9 ≤ n && n ≤ 13) || n == 0x20 || n == 0x85 || n == 0xA0 || n == 0x1680 ||
    (0x2000 ≤ n && n ≤ 0x200A) || n == 0x2028 || n == 0x2029 || n == 0x202F ||
    n == 0x205F || n == 0x3000

/-- A text without the blanks at its end. -/
def trimEnd (cs : List Char) : List Char :=
  (cs.reverse.dropWhile isBlank).reverse

/-- A text without the blanks at its two ends. -/
def trim (cs : List Char) : List Char :=
  trimEnd (cs.dropWhile isBlank)

/-- The words of a text whose first word has already begun with `run`. -/
def wordsFrom (run : List Char) : List Char → List (List Char)
  | [] => if run.isEmpty then [] else [run]
  | c :: cs =>
    if isBlank c then
      if run.isEmpty then wordsFrom [] cs else run :: wordsFrom [] cs
    else wordsFrom (run ++ [c]) cs

/-- The maximal runs of characters that are not blank, in order. -/
def words (cs : List Char) : List (List Char) :=
  wordsFrom [] cs

/-- The words of a text, separated by single spaces. -/
def normalize (cs : List Char) : List Char :=
  List.intercalate [' '] (words cs)

end WireSchema.Text
