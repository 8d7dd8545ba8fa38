/-
# Quoted texts

A quoted text stands between double quotes.  A quote, a backslash and the four common
controls are written with a backslash, every other character that cannot be shown alone by
its code point in hexadecimal, and the rest as it is.
-/
import Stencil.Text.Numeral
import Stencil.Text.Shapeless

namespace Stencil
namespace Text

/-- One character inside a quoted text. -/
def quoteChar (c : Char) : Text :=
  if c = '\x00' then ['\\', '0']
  else if c = '\t' then ['\\', 't']
  else if c = '\r' then ['\\', 'r']
  else if c = '\n' then ['\\', 'n']
  else if c = '\\' then ['\\', '\\']
  else if c = '"' then ['\\', '"']
  else if isShapeless c then ['\\', 'u', '\x7b'] ++ ofNatHex c.toNat ++ ['\x7d']
  else [c]

/-- The quoted form of a text. -/
def quote (s : Text) : Text := '"' :: (s.flatMap quoteChar ++ ['"'])

end Text
end Stencil
