/-
# Numerals

Decimal and hexadecimal numerals of whole numbers, and padding to a width.
-/
import Stencil.Text.Basic

namespace Stencil
namespace Text

/-- The decimal numeral of a natural number. -/
def ofNat (n : Nat) : Text := Nat.toDigits 10 n

/-- The decimal numeral of an integer, with a sign only when it is negative. -/
def ofInt (n : Int) : Text := if n < 0 then '-' :: ofNat n.natAbs else ofNat n.natAbs

/-- The hexadecimal numeral of a natural number, in lower case. -/
def ofNatHex (n : Nat) : Text := Nat.toDigits 16 n

/-- Fills up to `width` characters on the left. -/
def padLeft (fill : Char) (width : Nat) (s : Text) : Text :=
  List.replicate (width - s.length) fill ++ s

/-- Fills up to `width` characters on the right. -/
def padRight (fill : Char) (width : Nat) (s : Text) : Text :=
  s ++ List.replicate (width - s.length) fill

/-- The decimal numeral with at least `width` digits. -/
def ofNatPadded (width n : Nat) : Text := padLeft '0' width (ofNat n)

/-- The value of a decimal digit. -/
def digitValue? (c : Char) : Option Nat :=
  if '0' ≤ c ∧ c ≤ '9' then some (c.toNat - 48) else none

/-- The value of a hexadecimal digit of either case. -/
def hexValue? (c : Char) : Option Nat :=
  if '0' ≤ c ∧ c ≤ '9' then some (c.toNat - 48)
  else if 'a' ≤ c ∧ c ≤ 'f' then some (c.toNat - 87)
  else if 'A' ≤ c ∧ c ≤ 'F' then some (c.toNat - 55)
  else none

/-- An ASCII letter in lower case; every other character as it is. -/
def lowerAscii (c : Char) : Char :=
  if 'A' ≤ c ∧ c ≤ 'Z' then Char.ofNat (c.toNat + 32) else c

end Text
end Stencil
