/-
# Base 64

Three bytes are written as four digits of six bits.  A last group of one or two bytes is
filled up with zero bits, and padding signs stand for the digits that hold none of its bits.
The two alphabets differ in the digits of 62 and 63.
-/
import Stencil.Text.Basic

namespace Stencil
namespace Base64

/-- The digits of 62 and 63. -/
structure Alphabet where
  sixtyTwo : UInt8
  sixtyThree : UInt8
deriving DecidableEq

/-- The alphabet with `+` and `/`. -/
def standard : Alphabet := ⟨43, 47⟩

/-- The alphabet with `-` and `_`, for use in addresses and file names. -/
def urlSafe : Alphabet := ⟨45, 95⟩

/-- The padding sign `=`. -/
def padding : UInt8 := 61

/-- The digit of a value below 64. -/
def Alphabet.digit (a : Alphabet) (n : UInt8) : UInt8 :=
  if n < 26 then 65 + n
  else if n < 52 then 71 + n
  else if n < 62 then n - 4
  else if n = 62 then a.sixtyTwo
  else a.sixtyThree

/-- The padded base 64 form of a byte string. -/
def encode (a : Alphabet) : Bytes → Bytes
  | [] => []
  | [x] => [a.digit (x >>> 2), a.digit ((x &&& 3) <<< 4), padding, padding]
  | [x, y] =>
    [a.digit (x >>> 2), a.digit ((x &&& 3) <<< 4 ||| y >>> 4), a.digit ((y &&& 15) <<< 2),
      padding]
  | x :: y :: z :: rest =>
    [a.digit (x >>> 2), a.digit ((x &&& 3) <<< 4 ||| y >>> 4),
      a.digit ((y &&& 15) <<< 2 ||| z >>> 6), a.digit (z &&& 63)] ++ encode a rest

end Base64
end Stencil
