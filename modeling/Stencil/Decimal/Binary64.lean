/-
# Binary floating-point numbers of 64 bits

A number is kept as its 64 bits: a sign, eleven bits of exponent and 52 bits of fraction.
`Binary64.view` reads them as a number `m * 2 ^ q`, an infinity or no number at all, and
`Binary64.widen` makes the number that a pattern of 32 bits stands for, which is exact.
-/
import Stencil.Power

namespace Stencil

/-- A floating-point number by its bits. -/
structure Binary64 where
  bits : UInt64
deriving DecidableEq

/-- What the bits of a floating-point number stand for. -/
inductive Binary64.View
  | nan
  | infinite (negative : Bool)
  /-- The number `significand * 2 ^ exponent`.  `atBoundary` says that the next smaller number
  is only half as far away as the next greater one. -/
  | finite (negative : Bool) (significand : Nat) (exponent : Int) (atBoundary : Bool)
deriving DecidableEq

namespace Binary64

/-- The sign bit. -/
def isNegative (x : Binary64) : Bool := x.bits.toNat / twoTo 63 == 1

/-- Reads the bits. -/
def view (x : Binary64) : View :=
  let fraction : Nat := x.bits.toNat % twoTo 52
  let biased : Nat := x.bits.toNat / twoTo 52 % twoTo 11
  if biased = 2047 then
    if fraction = 0 then .infinite x.isNegative else .nan
  else if biased = 0 then .finite x.isNegative fraction (-1074) false
  else .finite x.isNegative (twoTo 52 + fraction) ((biased : Int) - 1075) (fraction = 0 && 1 < biased)

/-- The number with a sign, a biased exponent and a fraction. -/
def assemble (negative : Bool) (biased fraction : Nat) : Binary64 :=
  ⟨UInt64.ofNat ((if negative then twoTo 63 else 0) + biased * twoTo 52 + fraction)⟩

/-- The number that 32 bits stand for. -/
def widen (bits : UInt32) : Binary64 :=
  let n := bits.toNat
  let negative := n / twoTo 31 == 1
  let biased := n / twoTo 23 % twoTo 8
  let fraction := n % twoTo 23
  if biased = 255 then assemble negative 2047 (fraction * twoTo 29)
  else if biased = 0 then
    if fraction = 0 then assemble negative 0 0
    else
      let top := fraction.log2
      assemble negative (top + 874) ((fraction - twoTo top) * twoTo (52 - top))
  else assemble negative (biased + 896) (fraction * twoTo 29)

end Binary64
end Stencil
