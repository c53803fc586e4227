import WireSchema.Text.Identifier.Table
import WireSchema.Text.Ranges

/-!
# Identifiers

The characters that may begin an identifier and those that may go on in one.

## Main definitions

* `isIdentStart`, `isIdentMore`: the two classes of characters.
* `spanIdent`: the identifier at the beginning of a text.
-/

namespace WireSchema.Text

/-- A character that may begin an identifier: an underscore, or one with the property
`XID_Start`. -/
def isIdentStart (c : Char) : Bool :=
  c == '_' || inRanges Identifier.startRanges c.toNat

/-- A character that may go on in an identifier, that is, one with the property
`XID_Continue`. -/
def isIdentMore (c : Char) : Bool :=
  inRanges Identifier.startRanges c.toNat || inRanges Identifier.moreRanges c.toNat

/-- The identifier at the beginning of a text and what follows it. -/
def spanIdent : List Char → Option (List Char × List Char)
  | [] => none
  | c :: cs =>
    if isIdentStart c then some (c :: cs.takeWhile isIdentMore, cs.dropWhile isIdentMore)
    else none

end WireSchema.Text
