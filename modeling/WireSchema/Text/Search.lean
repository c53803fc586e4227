/-!
# First occurrences in a text

Cutting a text at the first place where a pattern stands, and removing that first occurrence.

## Main definitions

* `cutFirst`: what stands before and after the first occurrence of a pattern.
* `contains`, `eraseFirst`: whether a pattern occurs, and the text without its first occurrence.
* `cutBracketed`: a text cut at its first pair of an opening and a closing mark.
-/

namespace WireSchema.Text

/-- What stands before and after the first occurrence of `pat`. -/
def cutFirst (pat : List Char) : List Char → Option (List Char × List Char)
  | [] => if pat.isEmpty then some ([], []) else none
  | c :: cs =>
    if pat.isPrefixOf (c :: cs) then some ([], (c :: cs).drop pat.length)
    else (cutFirst pat cs).map fun (before, after) => (c :: before, after)

/-- Does `pat` occur in the text? -/
def contains (pat cs : List Char) : Bool :=
  (cutFirst pat cs).isSome

/-- The text without the first occurrence of `pat`, if there is one. -/
def eraseFirst (pat cs : List Char) : List Char :=
  match cutFirst pat cs with
  | some (before, after) => before ++ after
  | none => cs

/-- The text cut at its first `opener` and its first `closer`: what stands before them, between
them and after them. There is no cut when the first `closer` does not follow the first
`opener`. -/
def cutBracketed (opener closer : Char) (cs : List Char) :
    Option (List Char × List Char × List Char) :=
  let before := cs.takeWhile (· != opener)
  match cs.dropWhile (· != opener) with
  | [] => none
  | _ :: rest =>
    if before.contains closer then none
    else
      match rest.dropWhile (· != closer) with
      | [] => none
      | _ :: after => some (before, rest.takeWhile (· != closer), after)

end WireSchema.Text
