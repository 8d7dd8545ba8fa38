/-
# Percent escapes

A byte is escaped as a percent sign and two upper-case hexadecimal digits.  Reading takes digits
of either case; a percent sign without two digits after it stands for itself.

`Percent.encodeText` escapes the characters of a text that a rule picks, and always those
outside ASCII, byte by byte.
-/
import Stencil.Codec.Hex

namespace Stencil
namespace Percent

/-- A percent sign and two digits. -/
def escape (b : UInt8) : Bytes := [37, Hex.upperDigit (b >>> 4), Hex.upperDigit (b &&& 15)]

/-- Reads percent escapes. -/
def unescape : Bytes → Bytes
  | [] => []
  | [b] => [b]
  | [b, c] => [b, c]
  | b :: x :: y :: rest =>
    if b = 37 then
      match Hex.value? x, Hex.value? y with
      | some h, some l => (h <<< 4 ||| l) :: unescape rest
      | _, _ => b :: unescape (x :: y :: rest)
    else b :: unescape (x :: y :: rest)

/-- Bytes of ASCII as characters. -/
def ofAscii (b : Bytes) : Text := b.map fun n => Char.ofNat n.toNat

/-- One character, escaped when `mustEscape` picks it or it lies outside ASCII. -/
def encodeChar (mustEscape : Char → Bool) (c : Char) : Text :=
  if c.toNat < 0x80 && !mustEscape c then [c]
  else ofAscii ((String.utf8EncodeChar c).flatMap escape)

/-- A text with the picked characters and those outside ASCII escaped. -/
def encodeText (mustEscape : Char → Bool) (s : Text) : Text := s.flatMap (encodeChar mustEscape)

end Percent
end Stencil
