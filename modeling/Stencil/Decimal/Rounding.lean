/-
# Rounding to binary places

`Binary64.nearest` is the nearest whole number that 53 binary places can hold; of two that are
equally near, the one with an even last place.  These are the whole numbers that
floating-point numbers of 64 bits stand for, as long as they are not too great.

`Binary64.overflows` tells when a whole number is too great: from half way between the greatest
finite number and the power of two after it.
-/
import Stencil.Power

namespace Stencil
namespace Binary64

/-- The multiple of `unit` that is nearest; of two, the even multiple. -/
def nearestMultiple (unit n : Nat) : Nat :=
  let q := n / unit
  let r := n % unit
  if unit < 2 * r ∨ (2 * r = unit ∧ q % 2 = 1) then (q + 1) * unit else q * unit

/-- The nearest number of 53 binary places. -/
def nearest (n : Nat) : Nat := nearestMultiple (twoTo (n.log2 - 52)) n

/-- Is rounded to no finite number. -/
def overflows (n : Nat) : Bool := twoTo 1024 - twoTo 970 ≤ n

end Binary64
end Stencil
