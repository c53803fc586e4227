import WireSchema.Text.Case
import WireSchema.Text.Cluster

/-!
# Names in snake case

A name is cut into words at underscores, hyphens and spaces, where its case rises, and between
letters and digits; the words are then written in lower or in upper case with underscores between
them. So `targetId` becomes `target_id` and `HTTPServer` becomes `http_server`.

## Main definitions

* `nameWords`: the words of a name.
* `snake`, `constant`: a name in lower and in upper snake case.
-/

namespace WireSchema.Text

namespace WordCase

/-- A cluster that differs from its lower case but not from its upper case. -/
def isUpper (g : List Char) : Bool :=
  upper g != lower g && g == upper g

/-- A cluster that differs from its upper case but not from its lower case. -/
def isLower (g : List Char) : Bool :=
  upper g != lower g && g == lower g

/-- A decimal digit. -/
def isDigit (g : List Char) : Bool :=
  g.all Char.isDigit

/-- A cluster that separates words and belongs to none. -/
def isSeparator (g : List Char) : Bool :=
  g == ['_'] || g == ['-'] || g == [' ']

/-- Does a word end between the cluster `g` and the clusters after it? -/
def endsWord (g : List Char) : List (List Char) → Bool
  | [] => false
  | h :: rest =>
    (isLower g && (isUpper h || isDigit h)) ||
      (isUpper g && isDigit h) ||
      (isDigit g && (isLower h || isUpper h)) ||
      (isUpper g && isUpper h && (rest.head?.map isLower).getD false)

/-- The words of a sequence of clusters whose first word has begun with `run`. -/
def wordsOf (run : List Char) : List (List Char) → List (List Char)
  | [] => [run]
  | g :: gs =>
    if isSeparator g then run :: wordsOf [] gs
    else if endsWord g gs then (run ++ g) :: wordsOf [] gs
    else wordsOf (run ++ g) gs

end WordCase

/-- The words of a name. There is an empty word before, after or between separators. -/
def nameWords (cs : List Char) : List (List Char) :=
  WordCase.wordsOf [] (clusters cs)

/-- A name in lower case with underscores between its words. -/
def snake (cs : List Char) : List Char :=
  List.intercalate ['_'] ((nameWords cs).map lower)

/-- A name in upper case with underscores between its words. -/
def constant (cs : List Char) : List Char :=
  List.intercalate ['_'] ((nameWords cs).map upper)

end WireSchema.Text
