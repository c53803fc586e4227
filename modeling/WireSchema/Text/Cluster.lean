import WireSchema.Text.Cluster.Table
import WireSchema.Text.Ranges

/-!
# Grapheme clusters

A text falls into extended grapheme clusters, the characters as a reader sees them: a letter with
the marks on it, a Hangul syllable, a flag made of two regional indicators, or pictographs joined
by a zero-width joiner. Whether a cluster goes on is decided by the class of the next character
and by a few facts about the cluster so far.

## Main definitions

* `Cluster.Class`, `Cluster.classOf`: the classes of characters.
* `Cluster.State`: what is remembered about a cluster.
* `clusters`: the clusters of a text, in order.
-/

namespace WireSchema.Text

namespace Cluster

/-- The class of a character. -/
inductive Class
  | carriageReturn
  | lineFeed
  | control
  | extend
  | joiner
  | spacing
  | prepend
  | indicator
  | leading
  | vowel
  | trailing
  | openSyllable
  | closedSyllable
  | other
  deriving DecidableEq, Repr

/-- The class of a character. -/
def classOf (c : Char) : Class :=
  let n := c.toNat
  if n == 0x0D then .carriageReturn
  else if n == 0x0A then .lineFeed
  else if 0x20 ≤ n && n < 0x7F then .other
  else if n == 0x200D then .joiner
  else if inRanges controlRanges n then .control
  else if inRanges extendRanges n then .extend
  else if inRanges spacingRanges n then .spacing
  else if inRanges prependRanges n then .prepend
  else if 0x1F1E6 ≤ n && n ≤ 0x1F1FF then .indicator
  else if inRanges leadingRanges n then .leading
  else if inRanges vowelRanges n then .vowel
  else if inRanges trailingRanges n then .trailing
  else if 0xAC00 ≤ n && n ≤ 0xD7A3 then
    if (n - 0xAC00) % 28 == 0 then .openSyllable else .closedSyllable
  else .other

/-- A pictograph. -/
def isPictograph (c : Char) : Bool :=
  inRanges pictographRanges c.toNat

/-- A consonant that a virama joins to the next one. -/
def isConsonant (c : Char) : Bool :=
  inRanges consonantRanges c.toNat

/-- A virama. -/
def isLinker (c : Char) : Bool :=
  inRanges linkerRanges c.toNat

/-- How far a sequence of two parts has been seen. -/
inductive Progress
  | nothing
  /-- Its first part, with any extending characters. -/
  | started
  /-- Its first part and the character that links it to the second. -/
  | linked
  deriving DecidableEq, Repr

/-- What is remembered about a cluster. -/
structure State where
  /-- The class of its last character. -/
  last : Class
  /-- A pictograph that a joiner may link to another. -/
  pictograph : Progress
  /-- A consonant that a virama may link to another. -/
  conjunct : Progress
  /-- Is the number of regional indicators at its end odd? -/
  oddIndicators : Bool

/-- What is remembered after one more character. -/
def State.next (s : State) (c : Char) : State :=
  let cls := classOf c
  { last := cls
    pictograph :=
      if isPictograph c then .started
      else if s.pictograph == .started && cls == .extend then .started
      else if s.pictograph == .started && cls == .joiner then .linked
      else .nothing
    conjunct :=
      if isConsonant c then .started
      else if s.conjunct != .nothing && isLinker c then .linked
      else if (cls == .extend && c.toNat != 0x200C) || cls == .joiner then s.conjunct
      else .nothing
    oddIndicators := cls == .indicator && !s.oddIndicators }

/-- What is remembered after the first character of a cluster. -/
def State.first (c : Char) : State :=
  State.next ⟨.other, .nothing, .nothing, false⟩ c

/-- A control, or a part of a line end. -/
def Class.isControl : Class → Bool
  | .carriageReturn | .lineFeed | .control => true
  | _ => false

/-- Do two neighbours of these classes belong to one cluster, whatever stands around them? -/
def Class.joins : Class → Class → Bool
  | .leading, .leading | .leading, .vowel => true
  | .leading, .openSyllable | .leading, .closedSyllable => true
  | .openSyllable, .vowel | .openSyllable, .trailing => true
  | .vowel, .vowel | .vowel, .trailing => true
  | .closedSyllable, .trailing | .trailing, .trailing => true
  | _, .extend | _, .joiner | _, .spacing => true
  | .prepend, _ => true
  | _, _ => false

/-- Does the next character belong to the cluster? -/
def State.joins (s : State) (c : Char) : Bool :=
  let cls := classOf c
  if s.last.isControl || cls.isControl then s.last == .carriageReturn && cls == .lineFeed
  else
    s.last.joins cls ||
      (s.pictograph == .linked && isPictograph c) ||
      (s.conjunct == .linked && isConsonant c) ||
      (s.oddIndicators && cls == .indicator)

/-- The clusters of a text whose first cluster has begun with `run`. -/
def clustersFrom (run : List Char) (s : State) : List Char → List (List Char)
  | [] => [run]
  | c :: cs =>
    if s.joins c then clustersFrom (run ++ [c]) (s.next c) cs
    else run :: clustersFrom [c] (State.first c) cs

end Cluster

/-- The grapheme clusters of a text, in order. -/
def clusters : List Char → List (List Char)
  | [] => []
  | c :: cs => Cluster.clustersFrom [c] (Cluster.State.first c) cs

end WireSchema.Text
