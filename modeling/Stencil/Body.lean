/-
# Bodies: expansions with their references resolved

The text of an expansion may name other expansions.  In a `Body` each such token carries the
body it stands for, so a body is a finite tree, and whatever walks through expansions does so
by recursion on the tree.

* `Body.chunks` and `Body.tail`: the template that was written for the expansion;
* `Body.splice`: the chunks that a body leaves behind where it is put into a template, with
  the literal text before it.
-/
import Stencil.Template

namespace Stencil

/-- Chunks and a tail in which tokens of expansions carry their bodies. -/
inductive Body
  /-- The literal text after the last token. -/
  | done (tail : Text)
  /-- Literal text and a token that is no expansion. -/
  | token (lead : Text) (token : Token) (rest : Body)
  /-- Literal text and a token that stands for a body. -/
  | expand (lead : Text) (token : Token) (body rest : Body)

namespace Body

/-- The chunks as they were written, without following references. -/
def chunks : Body → List Chunk
  | .done _ => []
  | .token lead t rest => ⟨lead, t⟩ :: rest.chunks
  | .expand lead t _ rest => ⟨lead, t⟩ :: rest.chunks

/-- The literal text after the last token. -/
def tail : Body → Text
  | .done s => s
  | .token _ _ rest => rest.tail
  | .expand _ _ _ rest => rest.tail

/-- The template that was written. -/
def template (b : Body) (d : Delimiters) : Template := ⟨b.chunks, b.tail, d⟩

/-- The chunks of a body after literal text that waits for its next token, and the literal text
that waits after them. -/
def splice (pending : Text) : Body → List Chunk × Text
  | .done s => ([], pending ++ s)
  | .token lead t rest =>
    let after := rest.splice []
    (⟨pending ++ lead, t⟩ :: after.1, after.2)
  | .expand lead _ body rest =>
    let inner := body.splice (pending ++ lead)
    let after := rest.splice inner.2
    (inner.1 ++ after.1, after.2)

/-- A body in written form, with all references followed. -/
def source (d : Delimiters) : Body → Text
  | .done s => s
  | .token lead t rest => lead ++ d.placeholder t.text ++ rest.source d
  | .expand lead _ body rest => lead ++ body.source d ++ rest.source d

/-- How deep references are nested. -/
def depth : Body → Nat
  | .done _ => 0
  | .token _ _ rest => rest.depth
  | .expand _ _ body rest => max (body.depth + 1) rest.depth

end Body
end Stencil
