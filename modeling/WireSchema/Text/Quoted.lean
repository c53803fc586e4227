import WireSchema.Text.Quoted.Table
import WireSchema.Text.Ranges

/-!
# Quoted texts

A text is quoted between double quotes such that it stays on one line and can be read back: quotes
and backslashes take a backslash, and characters that do not print as themselves are written by
their code points.

## Main definitions

* `Quoted.escape`: the characters written for one character.
* `quote`: a text between quotes.
-/

namespace WireSchema.Text

namespace Quoted

/-- A character that is printed as itself. -/
def isPrintable (c : Char) : Bool :=
  inRanges printableRanges c.toNat && !inRanges extendRanges c.toNat

/-- The characters written for one character. -/
def escape (c : Char) : List Char :=
  if c == '\x00' then ['\\', '0']
  else if c == '\t' then ['\\', 't']
  else if c == '\r' then ['\\', 'r']
  else if c == '\n' then ['\\', 'n']
  else if c == '\\' || c == '"' then ['\\', c]
  else if isPrintable c then [c]
  else ['\\', 'u', '\x7b'] ++ Nat.toDigits 16 c.toNat ++ ['\x7d']

end Quoted

/-- A text between double quotes. -/
def quote (cs : List Char) : List Char :=
  '"' :: cs.flatMap Quoted.escape ++ ['"']

end WireSchema.Text
