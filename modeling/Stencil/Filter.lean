/-
# Filters

A filter turns the bytes of a value into other bytes.  It can fail half way, so what it
returns is what it wrote and, if it failed, why.  A registry holds filters by name.

`Registry.suggest` names registered filters that a mistyped name may have meant: those within
one edit for names of at most three bytes and within two for longer ones, nearest first.
-/
import Stencil.Codec.Base64
import Stencil.Codec.Form
import Stencil.Dict
import Stencil.Text.EditDistance
import Stencil.Text.Quoted

namespace Stencil

/-- Bytes written by a filter or a custom value, and why writing stopped early, if it did. -/
structure Emission where
  written : Bytes
  failure : Option Text
deriving DecidableEq

/-- All bytes written. -/
def Emission.ok (b : Bytes) : Emission := ⟨b, none⟩

/-- A transformation of bytes. -/
abbrev Filter := Bytes → Emission

namespace Filter

/-- The filter of a function that cannot fail. -/
def total (f : Bytes → Bytes) : Filter := fun v => .ok (f v)

/-- An ASCII letter in upper case; every other byte as it is. -/
def upperByte (b : UInt8) : UInt8 := if 97 ≤ b ∧ b ≤ 122 then b - 32 else b

/-- An ASCII letter in lower case; every other byte as it is. -/
def lowerByte (b : UInt8) : UInt8 := if 65 ≤ b ∧ b ≤ 90 then b + 32 else b

/-- Lower-case hexadecimal digits. -/
def hex : Filter := total Hex.encode

/-- Padded base 64 in the standard alphabet. -/
def base64 : Filter := total (Base64.encode Base64.standard)

/-- Padded base 64 in the alphabet for addresses. -/
def base64url : Filter := total (Base64.encode Base64.urlSafe)

/-- Form encoding. -/
def urlquery : Filter := total Form.encode

/-- ASCII letters in upper case. -/
def upper : Filter := total (List.map upperByte)

/-- ASCII letters in lower case. -/
def lower : Filter := total (List.map lowerByte)

/-- The filters every program starts with. -/
def builtin : List (Text × Filter) :=
  [("hex".toList, hex), ("base64".toList, base64), ("base64url".toList, base64url),
    ("urlquery".toList, urlquery), ("upper".toList, upper), ("lower".toList, lower)]

end Filter

/-- Filters by name. -/
abbrev Registry := Dict Filter

namespace Registry

/-- The built-in filters under their own names. -/
def builtin : Registry := Dict.ofList Filter.builtin

/-- The names in braces, each one quoted. -/
def inspect (r : Registry) : Text :=
  '\x7b' :: Text.join ", ".toList (r.keys.map Text.quote) ++ ['\x7d']

end Registry

/-- A candidate and its distance; nearer ones come first, then those first in order. -/
def nearerOrEqual (a b : Nat × Text) : Bool :=
  a.1 < b.1 || (a.1 == b.1 && !decide (b.2 < a.2))

/-- The greatest distance at which a name is suggested for `name`. -/
def suggestionReach (name : Text) : Nat := if name.byteLength ≤ 3 then 1 else 2

/-- At most three of the available names that are close to `name`, nearest first. -/
def suggestions (name : Text) (available : List Text) : List Text :=
  let near := (available.map fun a => (name.editDistance a, a)).filter
    fun a => a.1 ≤ suggestionReach name
  ((near.mergeSort nearerOrEqual).take 3).map Prod.snd

end Stencil
