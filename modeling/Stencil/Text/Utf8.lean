/-
# Reading UTF-8

Bytes are read from left to right by a machine that is either between characters or inside
one.  Where the bytes do not continue a character, the ill-formed stretch read so far counts
as one fault, and the byte that broke it is read afresh.

* `Utf8.read`: the characters of a byte string, with `none` for each fault;
* `Utf8.decode?`: the text, when there is no fault;
* `Utf8.lossy`: the text with U+FFFD for each fault.
-/
import Stencil.Text.Basic

namespace Stencil
namespace Utf8

/-- What is known of a character whose first bytes have been read. -/
structure Unfinished where
  /-- The bits read so far. -/
  bits : Nat
  /-- How many bytes are still missing after the next one. -/
  more : Nat
  /-- The least and the greatest next byte of a well-formed character. -/
  low : Nat
  high : Nat
deriving DecidableEq

/-- What a byte can be between two characters. -/
inductive Lead
  | whole (c : Char)
  | opens (p : Unfinished)
  | fault

/-- Reads a byte between two characters.  The narrower ranges after `E0`, `ED`, `F0` and `F4`
keep out overlong forms, surrogates and points past `10FFFF`. -/
def lead (b : UInt8) : Lead :=
  let n := b.toNat
  if n < 0x80 then .whole (Char.ofNat n)
  else if n < 0xc2 then .fault
  else if n < 0xe0 then .opens ⟨n - 0xc0, 0, 0x80, 0xbf⟩
  else if n < 0xf0 then
    .opens ⟨n - 0xe0, 1, if n = 0xe0 then 0xa0 else 0x80, if n = 0xed then 0x9f else 0xbf⟩
  else if n < 0xf5 then
    .opens ⟨n - 0xf0, 2, if n = 0xf0 then 0x90 else 0x80, if n = 0xf4 then 0x8f else 0xbf⟩
  else .fault

/-- Reads on between two characters (`none`) or inside one (`some`). -/
def readFrom : Option Unfinished → Bytes → List (Option Char)
  | none, [] => []
  | some _, [] => [none]
  | none, b :: bs =>
    match lead b with
    | .whole c => some c :: readFrom none bs
    | .opens p => readFrom (some p) bs
    | .fault => none :: readFrom none bs
  | some p, b :: bs =>
    let n := b.toNat
    if p.low ≤ n ∧ n ≤ p.high then
      let bits := p.bits * 64 + n % 64
      match p.more with
      | 0 => some (Char.ofNat bits) :: readFrom none bs
      | more + 1 => readFrom (some ⟨bits, more, 0x80, 0xbf⟩) bs
    else
      none ::
        match lead b with
        | .whole c => some c :: readFrom none bs
        | .opens p => readFrom (some p) bs
        | .fault => none :: readFrom none bs

/-- The characters of a byte string, with `none` for each ill-formed stretch. -/
def read (bs : Bytes) : List (Option Char) := readFrom none bs

/-- The text of well-formed bytes. -/
def decode? (bs : Bytes) : Option Text := (read bs).mapM id

/-- The text with U+FFFD in the place of each ill-formed stretch. -/
def lossy (bs : Bytes) : Text := (read bs).map fun c => c.getD '\ufffd'

end Utf8
end Stencil
