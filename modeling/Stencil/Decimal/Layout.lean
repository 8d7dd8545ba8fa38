/-
# Written floating-point numbers

How the digits of a floating-point number are laid out is one record, `FloatStyle`, and
`FloatStyle.write` writes a number in a style.  Two styles are in use: `FloatStyle.plain` for
values put into a text, which never has an exponent, and `FloatStyle.inspected` for values
shown to a programmer, which always has a point or an exponent.
-/
import Stencil.Decimal.Binary64
import Stencil.Decimal.Shortest

namespace Stencil

/-- How a floating-point number is written. -/
structure FloatStyle where
  /-- The least number of digits after the point. -/
  fraction : Nat
  /-- The numbers written without an exponent, by the place of their decimal point. -/
  positional : Int → Bool
  nan : Text
  infinity : Text
  negativeInfinity : Text

namespace FloatStyle

/-- Digits with a point among, before or after them. -/
def layPositional (style : FloatStyle) (d : Shortest.Digits) : Text :=
  let whole := if d.point ≤ 0 then ['0']
    else Text.padRight '0' d.point.toNat (d.digits.take d.point.toNat)
  let rest := List.replicate (-d.point).toNat '0' ++ d.digits.drop d.point.toNat
  let rest := Text.padRight '0' style.fraction rest
  if rest = [] then whole else whole ++ '.' :: rest

/-- One digit before the point and an exponent. -/
def layScientific (d : Shortest.Digits) : Text :=
  let rest := d.digits.drop 1
  d.digits.take 1 ++ (if rest = [] then [] else '.' :: rest) ++ 'e' :: Text.ofInt (d.point - 1)

/-- A floating-point number in a style. -/
def write (style : FloatStyle) (x : Binary64) : Text :=
  match x.view with
  | .nan => style.nan
  | .infinite negative => if negative then style.negativeInfinity else style.infinity
  | .finite negative m q atBoundary =>
    let sign := if negative then ['-'] else []
    if m = 0 then sign ++ style.layPositional ⟨[], 0⟩
    else
      let d := Shortest.ofBinary m q atBoundary
      sign ++ if style.positional d.point then style.layPositional d else layScientific d

/-- As part of a text: no exponent, and a point only before a fraction. -/
def plain : FloatStyle where
  fraction := 0
  positional _ := true
  nan := "NaN".toList
  infinity := "+Inf".toList
  negativeInfinity := "-Inf".toList

/-- As shown to a programmer: at least one digit of fraction, and an exponent from `10 ^ 16` on
and below `10 ^ -4`. -/
def inspected : FloatStyle where
  fraction := 1
  positional point := -4 < point && point ≤ 16
  nan := "NaN".toList
  infinity := "inf".toList
  negativeInfinity := "-inf".toList

end FloatStyle
end Stencil
