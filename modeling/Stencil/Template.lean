/-
# Templates

A compiled template is a list of chunks, each of them literal text and the token after it, and
the literal text after the last token.  It remembers the markers it was compiled with, so that
`Template.source` can write it back.
-/
import Stencil.Delimiters

namespace Stencil

/-- Literal text and the token after it. -/
structure Chunk where
  lead : Text
  token : Token
deriving DecidableEq

/-- A compiled template. -/
structure Template where
  chunks : List Chunk
  tail : Text
  delimiters : Delimiters
deriving DecidableEq

namespace Template

/-- A chunk in written form. -/
def chunkSource (d : Delimiters) (c : Chunk) : Text := c.lead ++ d.placeholder c.token.text

/-- The template in written form, with its own markers. -/
def source (t : Template) : Text := t.chunks.flatMap (chunkSource t.delimiters) ++ t.tail

/-- Has no tokens. -/
def isLiteral (t : Template) : Bool := t.chunks.isEmpty

/-- The tokens in order. -/
def tokens (t : Template) : List Token := t.chunks.map Chunk.token

/-- The size of the literal text with `perToken` bytes for each token. -/
def estimateSize (t : Template) (perToken : Nat) : Nat :=
  t.chunks.foldr (fun c n => Text.byteLength c.lead + perToken + n) (Text.byteLength t.tail)

end Template
end Stencil
