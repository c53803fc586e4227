import WireSchema.Text.Case.Table
import WireSchema.Text.Ranges

/-!
# Upper and lower case of texts

A text is put into upper case character by character, and one character may become several. Lower
case is the same, except that a capital sigma at the end of a word becomes a final sigma.

## Main definitions

* `upper`, `lower`: a text in upper and in lower case.
-/

namespace WireSchema.Text

namespace Case

/-- The code point that a range gives for `n`, if `n` belongs to it. -/
def CaseRange.map? (r : CaseRange) (n : Nat) : Option Nat :=
  if r.first ≤ n && n ≤ r.last && (n - r.first) % r.stride == 0 then
    some (n - r.first + r.target)
  else none

/-- The characters that a case mapping gives for `c`. -/
def mapChar (special : List (Nat × List Nat)) (ranges : List CaseRange) (c : Char) : List Char :=
  match special.lookup c.toNat with
  | some ns => ns.map Char.ofNat
  | none => [((ranges.findSome? (·.map? c.toNat)).map Char.ofNat).getD c]

/-- A character with the property `Cased`. -/
def isCased (c : Char) : Bool :=
  inRanges casedRanges c.toNat

/-- A character with the property `Case_Ignorable`. -/
def isIgnorable (c : Char) : Bool :=
  inRanges ignorableRanges c.toNat

/-- Is the first character that cannot be ignored a cased one? -/
def meetsCased (cs : List Char) : Bool :=
  match cs.dropWhile isIgnorable with
  | c :: _ => isCased c
  | [] => false

/-- The small form of a capital sigma between the characters `before`, the nearest first, and
`after`. -/
def lowerSigma (before after : List Char) : Char :=
  if meetsCased before && !meetsCased after then 'ς' else 'σ'

/-- A text in lower case, where `before` holds the characters in front of it, the nearest
first. -/
def lowerFrom (before : List Char) : List Char → List Char
  | [] => []
  | c :: cs =>
    (if c == 'Σ' then [lowerSigma before cs] else mapChar lowerSpecial lowerRanges c) ++
      lowerFrom (c :: before) cs

end Case

/-- A text in upper case. -/
def upper (cs : List Char) : List Char :=
  cs.flatMap (Case.mapChar Case.upperSpecial Case.upperRanges)

/-- A text in lower case. -/
def lower (cs : List Char) : List Char :=
  Case.lowerFrom [] cs

end WireSchema.Text
