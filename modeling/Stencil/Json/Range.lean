/-
# The range of JSON numbers

A number must lie in the range of floating-point numbers of 64 bits.  It is judged by the
number that a reader with a significand of 64 bits makes of it:

* whole digits are taken into the significand as long as it has room for them; each one after
  that only adds one to the exponent;
* digits of the fraction are taken as long as there is room, and left out after that;
* the significand is multiplied by the power of ten, with one rounding for each of the two and
  one for the product.

A number with a negative exponent is always in range.
-/
import Stencil.Decimal.Rounding
import Stencil.Text.Numeral

namespace Stencil
namespace Json

/-- The number `significand * 10 ^ exponent`. -/
structure Magnitude where
  significand : Nat
  exponent : Int
deriving DecidableEq

namespace Magnitude

/-- The significand with one more digit, if there is room for it. -/
def push? (m : Magnitude) (c : Char) : Option Nat :=
  let n := m.significand * 10 + (Text.digitValue? c).getD 0
  if n < twoTo 64 then some n else none

/-- Reads whole digits. -/
def readWhole (m : Magnitude) : Text → Magnitude
  | [] => m
  | c :: s =>
    match m.push? c with
    | some n => readWhole ⟨n, m.exponent⟩ s
    | none => ⟨m.significand, m.exponent + (c :: s).length⟩

/-- Reads digits of a fraction. -/
def readFraction (m : Magnitude) : Text → Magnitude
  | [] => m
  | c :: s =>
    match m.push? c with
    | some n => readFraction ⟨n, m.exponent - 1⟩ s
    | none => m

/-- Lies in the range of floating-point numbers. -/
def inRange (m : Magnitude) : Bool :=
  if m.significand = 0 ∨ m.exponent < 0 then true
  else if 308 < m.exponent then false
  else !Binary64.overflows
    (Binary64.nearest m.significand * Binary64.nearest (tenTo m.exponent.toNat))

end Magnitude

/-- The value of a text of digits. -/
def digitsValue (s : Text) : Nat := s.foldl (fun n c => n * 10 + (Text.digitValue? c).getD 0) 0

/-- The power of ten that stands after `e`. -/
def readExponent : Text → Int
  | '-' :: s => -(digitsValue s)
  | '+' :: s => digitsValue s
  | s => digitsValue s

/-- The magnitude of a written number. -/
def magnitude (written : Text) : Magnitude :=
  let isDigit := fun c => (Text.digitValue? c).isSome
  let whole := (written.dropWhile (· == '-')).takeWhile isDigit
  let rest := (written.dropWhile (· == '-')).drop whole.length
  let fraction := if rest.head? = some '.' then (rest.drop 1).takeWhile isDigit else []
  let power := (rest.dropWhile fun c => c != 'e' && c != 'E').drop 1
  let m := ((⟨0, 0⟩ : Magnitude).readWhole whole).readFraction fraction
  ⟨m.significand, m.exponent + readExponent power⟩

/-- A written number lies in range. -/
def inRange (written : Text) : Bool := (magnitude written).inRange

end Json
end Stencil
