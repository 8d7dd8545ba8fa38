/-
# The shortest decimal that reads back

A binary number is the nearest one to every decimal in an interval around it.  The shortest
decimal is the one with the fewest digits in that interval; of two with equally many digits it
is the nearer, and the greater one when both are equally near.

For a given number of digits only the two neighbours of the number on that decimal grid need
to be tried, in exact arithmetic: if any point of the grid lies in the interval, so does one
of these two.
-/
import Stencil.Power
import Stencil.Text.Numeral

namespace Stencil
namespace Shortest

/-- A number and the ends of its interval over one denominator. -/
structure Span where
  low : Nat
  value : Nat
  high : Nat
  denominator : Nat
  /-- The ends belong to the interval. -/
  closed : Bool
deriving DecidableEq

/-- The interval of the binary number `m * 2 ^ q`: half way to its neighbours, the ends
included when `m` is even. -/
def Span.ofBinary (m : Nat) (q : Int) (atBoundary : Bool) : Span :=
  let factor := twoTo (q - 2).toNat
  { low := (4 * m - if atBoundary then 1 else 2) * factor
    value := 4 * m * factor
    high := (4 * m + 2) * factor
    denominator := twoTo (2 - q).toNat
    closed := m % 2 = 0 }

/-- The span divided by `10 ^ s`. -/
def Span.scale (p : Span) (s : Int) : Span :=
  let factor := tenTo (-s).toNat
  { p with
    low := p.low * factor
    value := p.value * factor
    high := p.high * factor
    denominator := p.denominator * tenTo s.toNat }

/-- The whole number `c` lies in the interval. -/
def Span.holds (p : Span) (c : Nat) : Bool :=
  let x := c * p.denominator
  if p.closed then p.low ≤ x && x ≤ p.high else p.low < x && x < p.high

/-- The whole number in the interval that is nearest to its value. -/
def Span.nearest? (p : Span) : Option Nat :=
  let below := p.value / p.denominator
  match p.holds below, p.holds (below + 1) with
  | true, true =>
    if 2 * (p.value - below * p.denominator) < p.denominator then some below
    else some (below + 1)
  | true, false => some below
  | false, true => some (below + 1)
  | false, false => none

/-- The exponent of the first decimal digit of a positive number. -/
def Span.leading (p : Span) : Int :=
  let e : Int := (Text.ofNat p.value).length - (Text.ofNat p.denominator).length
  if p.denominator * tenTo e.toNat ≤ p.value * tenTo (-e).toNat then e else e - 1

/-- Tries grids from `digits` digits on; `more` bounds how many are tried. -/
def search (p : Span) (leading : Int) (digits : Nat) : Nat → Nat × Int
  | 0 => (p.value / p.denominator, 0)
  | more + 1 =>
    let s := leading + 1 - digits
    match (p.scale s).nearest? with
    | some c => (c, s)
    | none => search p leading (digits + 1) more

/-- Digits and the place of the decimal point, counted from before the first digit. -/
structure Digits where
  digits : Text
  point : Int
deriving DecidableEq

/-- Takes trailing zeros off. -/
def dropZeros (s : Text) : Text := (s.reverse.dropWhile (· == '0')).reverse

/-- The shortest decimal of the positive number `m * 2 ^ q`.  Seventeen digits are enough for
every number of 64 bits. -/
def ofBinary (m : Nat) (q : Int) (atBoundary : Bool) : Digits :=
  let p := Span.ofBinary m q atBoundary
  let (c, s) := search p p.leading 1 17
  let all := Text.ofNat c
  ⟨dropZeros all, all.length + s⟩

end Shortest
end Stencil
