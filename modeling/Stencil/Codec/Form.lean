/-
# Form encoding

The encoding of names and values in the query of an address.  ASCII letters, digits and the
signs `*-._` stand for themselves, `+` for a space, and every other byte is escaped.

* `Form.encode`: the encoded form of a byte string;
* `Form.decode`: reads it back; a percent sign without two digits stands for itself;
* `Form.pairs`: the names and values of a whole query.
-/
import Stencil.Codec.Percent
import Stencil.Text.Utf8

namespace Stencil
namespace Form

/-- Stands for itself in encoded form. -/
def isPlain (b : UInt8) : Bool :=
  (48 ≤ b && b ≤ 57) || (65 ≤ b && b ≤ 90) || (97 ≤ b && b ≤ 122)
    || b == 42 || b == 45 || b == 46 || b == 95

/-- The encoded form of one byte. -/
def encodeByte (b : UInt8) : Bytes :=
  if isPlain b then [b] else if b = 32 then [43] else Percent.escape b

/-- The encoded form of a byte string. -/
def encode (v : Bytes) : Bytes := v.flatMap encodeByte

/-- Reads an encoded form. -/
def decode (v : Bytes) : Bytes := Percent.unescape (v.map fun b => if b = 43 then 32 else b)

/-- The encoded form of a text, as text. -/
def encodeText (s : Text) : Text := Percent.ofAscii (encode s.utf8)

/-- The text of an encoded form; ill-formed stretches become U+FFFD. -/
def decodeText (v : Bytes) : Text := Utf8.lossy (decode v)

/-- A query part at its first `=`. -/
def splitPair (part : Bytes) : Bytes × Bytes :=
  (part.takeWhile (· != 61), (part.dropWhile (· != 61)).drop 1)

/-- The names and values of a query: its non-empty parts between `&` signs. -/
def pairs (query : Bytes) : List (Text × Text) :=
  ((query.splitOn 38).filter fun p => !p.isEmpty).map fun p =>
    let (name, value) := splitPair p
    (decodeText name, decodeText value)

end Form
end Stencil
