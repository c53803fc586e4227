import WireSchema.Document.Value

/-!
# Numbers, truth values and dates of TOML

A scalar without quotes is the longest run of characters that can occur in one, and is read as a
whole. Of a number that is not an integer and of a date only the form and the range are checked,
since no schema and no setting holds one.

## Main definitions

* `integer?`: an integer in base 10, 16, 8 or 2.
* `isFloat`: a decimal number in the range of 64-bit floating point, an infinity or `nan`.
* `isMoment`: a date, a time of day, or both with or without an offset.
* `scalar?`: the value of a scalar without quotes.
-/

namespace WireSchema.Toml

/-! ### Digits -/

/-- Digits with single underscores between them; the digits alone. -/
def digits? (isDigit : Char → Bool) : List Char → Option (List Char)
  | [] => none
  | [c] => if isDigit c then some [c] else none
  | c :: '_' :: cs => if isDigit c then (digits? isDigit cs).map (c :: ·) else none
  | c :: cs => if isDigit c then (digits? isDigit cs).map (c :: ·) else none

/-- The value of a digit, where letters of either case follow 9. -/
def digitValue (c : Char) : Nat :=
  if c.isDigit then c.toNat - '0'.toNat
  else if c.isLower then c.toNat - 'a'.toNat + 10
  else c.toNat - 'A'.toNat + 10

/-- The number that digits write in a base. -/
def number (base : Nat) (digits : List Char) : Nat :=
  digits.foldl (fun n c => base * n + digitValue c) 0

/-- A hexadecimal digit. -/
def isHexDigit (c : Char) : Bool :=
  c.isDigit || ('a' ≤ c && c ≤ 'f') || ('A' ≤ c && c ≤ 'F')

/-! ### Integers -/

/-- A decimal integer without sign; a zero stands alone. -/
def decimal? (cs : List Char) : Option Nat := do
  let ds ← digits? Char.isDigit cs
  guard (ds.length == 1 || ds.head? != some '0')
  return number 10 ds

/-- An integer. Only a decimal one has a sign. -/
def anyInteger? : List Char → Option Int
  | '0' :: 'x' :: cs => (digits? isHexDigit cs).map fun ds => number 16 ds
  | '0' :: 'o' :: cs => (digits? (fun c => '0' ≤ c && c ≤ '7') cs).map fun ds => number 8 ds
  | '0' :: 'b' :: cs => (digits? (fun c => c == '0' || c == '1') cs).map fun ds => number 2 ds
  | '+' :: cs => (decimal? cs).map fun n => n
  | '-' :: cs => (decimal? cs).map fun n => -(n : Int)
  | cs => (decimal? cs).map fun n => n

/-- An integer that fits into 128 bits, signed if it is negative. -/
def integer? (cs : List Char) : Option Int :=
  (anyInteger? cs).filter fun n => -(Nat.pow 2 127 : Int) ≤ n && n < (Nat.pow 2 128 : Int)

/-! ### Floating point -/

/-- The least number that does not round to a finite 64-bit floating-point number. -/
def floatBound : Nat := Nat.pow 2 1024 - Nat.pow 2 970

/-- Is `m · 10^e` below `floatBound`? Numbers far from the bound are told by their number of
digits. -/
def isFinite (m : Nat) (e : Int) : Bool :=
  let digits : Int := (Nat.toDigits 10 m).length
  if m == 0 || digits + e < 300 then true
  else if 320 < digits + e then false
  else if 0 ≤ e then m * Nat.pow 10 e.toNat < floatBound
  else m < floatBound * Nat.pow 10 (-e).toNat

/-- An exponent with an optional sign. -/
def exponent? : List Char → Option Int
  | '+' :: cs => (digits? Char.isDigit cs).map fun ds => (number 10 ds : Int)
  | '-' :: cs => (digits? Char.isDigit cs).map fun ds => -(number 10 ds : Int)
  | cs => (digits? Char.isDigit cs).map fun ds => (number 10 ds : Int)

/-- Does the character begin an exponent? -/
def isExponentMark (c : Char) : Bool :=
  c == 'e' || c == 'E'

/-- A decimal number without sign that has a fraction or an exponent. -/
def isUnsignedFloat (cs : List Char) : Bool :=
  let whole := cs.takeWhile fun c => c != '.' && !isExponentMark c
  let rest := cs.dropWhile fun c => c != '.' && !isExponentMark c
  (do
    let n ← decimal? whole
    let (fraction, rest) ← match rest with
      | '.' :: rest => do
        let ds ← digits? Char.isDigit (rest.takeWhile (!isExponentMark ·))
        some (ds, rest.dropWhile (!isExponentMark ·))
      | rest => some ([], rest)
    let e ← match rest with
      | [] => some 0
      | _ :: rest => exponent? rest
    some (isFinite (n * Nat.pow 10 fraction.length + number 10 fraction) (e - fraction.length))
  ).getD false && !rest.isEmpty

/-- A number that is not written as an integer. -/
def isFloat : List Char → Bool
  | '+' :: cs => cs == "inf".toList || cs == "nan".toList || isUnsignedFloat cs
  | '-' :: cs => cs == "inf".toList || cs == "nan".toList || isUnsignedFloat cs
  | cs => cs == "inf".toList || cs == "nan".toList || isUnsignedFloat cs

/-! ### Dates and times -/

/-- Two digits and what follows them. -/
def twoDigits? : List Char → Option (Nat × List Char)
  | a :: b :: cs => if a.isDigit && b.isDigit then some (number 10 [a, b], cs) else none
  | _ => none

/-- Four digits and what follows them. -/
def fourDigits? (cs : List Char) : Option (Nat × List Char) := do
  let (a, cs) ← twoDigits? cs
  let (b, cs) ← twoDigits? cs
  return (100 * a + b, cs)

/-- The number of days of a month. -/
def daysIn (year month : Nat) : Nat :=
  if month == 2 then
    if year % 4 == 0 && (year % 100 != 0 || year % 400 == 0) then 29 else 28
  else if month == 4 || month == 6 || month == 9 || month == 11 then 30
  else 31

/-- What follows a character. -/
def after? (c : Char) : List Char → Option (List Char)
  | d :: cs => if c == d then some cs else none
  | [] => none

/-- What follows a date. -/
def date? (cs : List Char) : Option (List Char) := do
  let (year, cs) ← fourDigits? cs
  let (month, cs) ← twoDigits? (← after? '-' cs)
  let (day, cs) ← twoDigits? (← after? '-' cs)
  guard (1 ≤ month && month ≤ 12 && 1 ≤ day && day ≤ daysIn year month)
  return cs

/-- What follows a time of day. The seconds may be missing; their fraction is of any length. -/
def timeOfDay? (cs : List Char) : Option (List Char) := do
  let (hour, cs) ← twoDigits? cs
  let (minute, cs) ← twoDigits? (← after? ':' cs)
  guard (hour ≤ 23 && minute ≤ 59)
  match cs with
  | ':' :: cs =>
    let (second, cs) ← twoDigits? cs
    guard (second ≤ 60)
    match cs with
    | '.' :: c :: cs => if c.isDigit then some (cs.dropWhile Char.isDigit) else none
    | '.' :: [] => none
    | cs => some cs
  | cs => some cs

/-- Is the text an offset from universal time, or nothing? -/
def isOffset : List Char → Bool
  | [] => true
  | ['Z'] => true
  | ['z'] => true
  | c :: cs =>
    (c == '+' || c == '-') &&
      (do
        let (hour, cs) ← twoDigits? cs
        let (minute, cs) ← twoDigits? (← after? ':' cs)
        some (hour ≤ 23 && minute ≤ 59 && cs.isEmpty)).getD false

/-- A date, a time of day, or a date and a time of day with or without an offset. -/
def isMoment (cs : List Char) : Bool :=
  match date? cs with
  | some [] => true
  | some (c :: rest) =>
    (c == 'T' || c == 't' || c == ' ') && ((timeOfDay? rest).map isOffset).getD false
  | none => timeOfDay? cs == some []

/-! ### Scalars -/

/-- A character of a scalar without quotes. -/
def isScalarChar (c : Char) : Bool :=
  c.isAlphanum || c == '+' || c == '-' || c == '_' || c == '.' || c == ':'

/-- The characters of a scalar without quotes, and those after it. One space may stand between a
date and a time of day. -/
def spanScalar (cs : List Char) : List Char × List Char :=
  let head := cs.takeWhile isScalarChar
  let rest := cs.dropWhile isScalarChar
  match date? head, rest with
  | some [], ' ' :: c :: cs =>
    if c.isDigit then
      (head ++ ' ' :: (c :: cs).takeWhile isScalarChar, (c :: cs).dropWhile isScalarChar)
    else (head, rest)
  | _, _ => (head, rest)

/-- The value of a scalar without quotes. -/
def scalar? (cs : List Char) : Option Value :=
  if cs == "true".toList then some (.bool true)
  else if cs == "false".toList then some (.bool false)
  else
    match integer? cs with
    | some n => some (.int n)
    | none =>
      if isFloat cs then some .float
      else if isMoment cs then some .moment
      else none

end WireSchema.Toml
