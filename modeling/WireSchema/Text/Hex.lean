/-!
# Hexadecimal digits

Bytes are written in hexadecimal digits, and the escapes of string literals are read from them.

## Main definitions

* `Text.hexDigit?`: the value of a digit.
* `hexByte`: the digits of a byte.
-/

namespace WireSchema

/-- The value of a hexadecimal digit. -/
def Text.hexDigit? (c : Char) : Option Nat :=
  if '0' ≤ c && c ≤ '9' then some (c.toNat - '0'.toNat)
  else if 'a' ≤ c && c ≤ 'f' then some (c.toNat - 'a'.toNat + 10)
  else if 'A' ≤ c && c ≤ 'F' then some (c.toNat - 'A'.toNat + 10)
  else none

/-- A byte in hexadecimal digits, such as `0x1f`. -/
def hexByte (b : UInt8) : String :=
  "0x" ++ String.ofList (Nat.toDigits 16 b.toNat)

end WireSchema
