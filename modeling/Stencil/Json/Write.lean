/-
# Writing JSON

Compact JSON, without white space.  In a text the quote, the backslash and the controls below
U+0020 are escaped, five of them by a letter and the others by four lower-case digits; every
other character stands for itself.
-/
import Stencil.Text.Numeral

namespace Stencil
namespace Json

/-- One character inside a written text. -/
def writeChar (c : Char) : Text :=
  match c with
  | '"' => ['\\', '"']
  | '\\' => ['\\', '\\']
  | '\x08' => ['\\', 'b']
  | '\x0c' => ['\\', 'f']
  | '\n' => ['\\', 'n']
  | '\r' => ['\\', 'r']
  | '\t' => ['\\', 't']
  | c =>
    if c.toNat < 0x20 then
      ['\\', 'u', '0', '0'] ++ Text.padLeft '0' 2 (Text.ofNatHex c.toNat)
    else [c]

/-- A text. -/
def writeText (s : Text) : Text := '"' :: (s.flatMap writeChar ++ ['"'])

/-- A text, or `null`. -/
def writeOption : Option Text → Text
  | none => ['n', 'u', 'l', 'l']
  | some s => writeText s

/-- A list of items that are written already. -/
def writeList (items : List Text) : Text := '[' :: (Text.join [','] items ++ [']'])

/-- A name and a value that is written already. -/
def writeMember (m : Text × Text) : Text := writeText m.1 ++ ':' :: m.2

/-- An object whose values are written already. -/
def writeObject (members : List (Text × Text)) : Text :=
  '\x7b' :: (Text.join [','] (members.map writeMember) ++ ['\x7d'])

end Json
end Stencil
