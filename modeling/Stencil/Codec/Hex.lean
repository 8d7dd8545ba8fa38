/-
# Hexadecimal digits

A byte is written as two digits, the high half first.  Lower-case digits make the plain hex
form of a byte string; upper-case digits make percent escapes.
-/
import Stencil.Text.Basic

namespace Stencil
namespace Hex

/-- The digit of a value below sixteen, in lower case. -/
def digit (n : UInt8) : UInt8 := if n < 10 then 48 + n else 87 + n

/-- The digit of a value below sixteen, in upper case. -/
def upperDigit (n : UInt8) : UInt8 := if n < 10 then 48 + n else 55 + n

/-- The value of a digit of either case. -/
def value? (b : UInt8) : Option UInt8 :=
  if 48 ≤ b ∧ b ≤ 57 then some (b - 48)
  else if 97 ≤ b ∧ b ≤ 102 then some (b - 87)
  else if 65 ≤ b ∧ b ≤ 70 then some (b - 55)
  else none

/-- The two lower-case digits of a byte. -/
def encodeByte (b : UInt8) : Bytes := [digit (b >>> 4), digit (b &&& 15)]

/-- Two lower-case digits for each byte. -/
def encode (v : Bytes) : Bytes := v.flatMap encodeByte

end Hex
end Stencil
