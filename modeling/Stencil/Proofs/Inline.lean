/-
# Rendering a text with and without compiling it

A text can be rendered at once, token by token, or compiled first.  On the way through the compiler
its tokens are made canonical and read back, expansions are spliced in with the literal text around
them, and filters of expansions are lost.  This file shows that both ways come to the same.

* `Meaning.pieces`: the meaning of pieces.  It does not see whether literals are joined
  (`pieces_merge`), and the pieces that a token leaves mean what the token means (`pieces_spliced`,
  `pieces_spliced_resolveToken`).
* `Meaning.template_of_compile`: a compiled text means what the text means.
* `Meaning.inline_of_unmatched`: a text with a fault means the text before the fault, and then the
  fault.
-/
import Stencil.Proofs.Pieces
import Stencil.Proofs.Rendering

namespace Stencil
namespace Meaning

/-! ## 1. The meaning of pieces -/

/-- Pieces in a row, with tokens that are no expansions. -/
def pieces (E : Engine) (vs : Bindings) (nested : Text → Template → Writing) :
    List Piece → Writing
  | [] => text []
  | .literal s :: ps => seq (text s) (pieces E vs nested ps)
  | .token t :: ps => seq (leaf E vs nested t.name t.suffix) (pieces E vs nested ps)

variable {E : Engine} {vs : Bindings} {nested : Text → Template → Writing}

theorem pieces_literal (s : Text) : pieces E vs nested [.literal s] = text s :=
  seq_text_nil (text s)

theorem pieces_append (ps qs : List Piece) :
    pieces E vs nested (ps ++ qs) = seq (pieces E vs nested ps) (pieces E vs nested qs) := by
  induction ps with
  | nil => rw [List.nil_append, pieces, text_nil_seq]
  | cons p ps ih =>
    cases p with
    | literal s => rw [List.cons_append, pieces, ih, pieces, seq_assoc]
    | token t => rw [List.cons_append, pieces, ih, pieces, seq_assoc]

/-- **Pieces fail with one of their leaves**, behind what was written before it. -/
theorem pieces_error {e : Failure} : ∀ {ps : List Piece} {before : Bytes},
    pieces E vs nested ps before = .error e →
      ∃ k before', .token k ∈ ps ∧ leaf E vs nested k.name k.suffix before' = .error e
  | [], _, h => by contradiction
  | .literal s :: ps, before, h => by
    obtain hlit | ⟨a, -, hps⟩ := seq_eq_error_iff.mp h
    · contradiction
    · obtain ⟨k, before', hk, he⟩ := pieces_error hps
      exact ⟨k, before', List.mem_cons_of_mem _ hk, he⟩
  | .token k :: ps, before, h => by
    obtain hleaf | ⟨a, -, hps⟩ := seq_eq_error_iff.mp h
    · exact ⟨k, before, List.mem_cons_self, hleaf⟩
    · obtain ⟨k', before', hk, he⟩ := pieces_error hps
      exact ⟨k', before', List.mem_cons_of_mem _ hk, he⟩

theorem pieces_glue (s : Text) (ps : List Piece) :
    pieces E vs nested (Piece.glue s ps) = seq (text s) (pieces E vs nested ps) := by
  rcases ps with _ | ⟨u | t, ps⟩
  · rfl
  · rw [Piece.glue, pieces, pieces, ← seq_assoc, seq_text_text]
  · rfl

/-- **Joining literals keeps the meaning.** -/
theorem pieces_merge (ps : List Piece) :
    pieces E vs nested (Piece.merge ps) = pieces E vs nested ps := by
  induction ps with
  | nil => rfl
  | cons p ps ih =>
    cases p with
    | literal s => rw [Piece.merge, pieces_glue, ih, pieces]
    | token t => rw [Piece.merge, pieces, ih, pieces]

/-- The pieces of a body mean what the body means. -/
theorem pieces_body : ∀ b : Body, pieces E vs nested b.pieces = body E vs nested b
  | .done s => pieces_literal s
  | .token lead t rest => by
    rw [Body.pieces, pieces, pieces, pieces_body rest, body]
  | .expand lead t b rest => by
    rw [Body.pieces, pieces, pieces_append, pieces_body b, pieces_body rest, body]

/-! ## 2. Tokens -/

/-- Making the filters canonical keeps the meaning. -/
theorem leaf_canonical (name suffix : Text) :
    leaf E vs nested name (Token.chain (Token.filterNames suffix)) =
      leaf E vs nested name suffix := by
  rw [leaf, leaf, Delimiters.echo_canonical, Token.filterNames_canonical]

theorem token_canonical (name suffix : Text) :
    token E vs nested name (Token.chain (Token.filterNames suffix)) =
      token E vs nested name suffix := by
  rw [token, token]
  cases E.bodies.get? name with
  | none => exact leaf_canonical name suffix
  | some b => rfl

/-- **A token means what it leaves.** -/
theorem pieces_spliced (k : Token) :
    pieces E vs nested (E.spliced k) = token E vs nested k.name k.suffix := by
  rw [Engine.spliced, token]
  cases E.bodies.get? k.name with
  | none => exact seq_text_nil _
  | some b => exact pieces_body b

/-- What the token of a text leaves means the macro that it names, with the filters as they were
written. -/
theorem pieces_spliced_resolveToken (inner : Text) :
    pieces E vs nested (E.spliced (E.resolveToken inner)) =
      token E vs nested (E.aliases.resolve (Token.split inner.trim).1)
        (Token.split inner.trim).2 := by
  rw [pieces_spliced, Engine.name_resolveToken, Engine.suffix_resolveToken, token_canonical]

/-- Chunks without expansions mean what their pieces mean. -/
theorem pieces_chunks (tail : Text) : ∀ {cs : List Chunk},
    (∀ c ∈ cs, E.expansion? c.token.name = none) →
      pieces E vs nested (cs.flatMap Chunk.pieces ++ [.literal tail]) = chunks E vs nested tail cs
  | [], _ => pieces_literal tail
  | c :: cs, h => by
    have hcs := pieces_chunks tail fun c' hc' => h c' (List.mem_cons_of_mem _ hc')
    rw [List.flatMap_cons, List.append_assoc, pieces_append, hcs, Chunk.pieces, chunks,
      token_of_not_expansion (h c List.mem_cons_self), pieces, pieces, pieces, seq_text_nil,
      seq_assoc]

/-! ## 3. Texts -/

/-- Parts mean what their pieces mean, whatever comes after them. -/
theorem segments_after (last : Segments) : ∀ parts : List (Text × Text),
    segments E vs nested (.after parts last) =
      seq (pieces E vs nested (E.partPieces parts)) (segments E vs nested last)
  | [] => (text_nil_seq _).symm
  | (lead, inner) :: parts => by
    rw [Engine.partPieces_cons, pieces, pieces_append, pieces_spliced_resolveToken, seq_assoc,
      seq_assoc, ← segments_after last parts]
    rfl

/-- The template of a text means what the pieces of the text mean. -/
theorem chunks_of_parts (hE : E.Linked) {s rest : Text} {parts : List (Text × Text)}
    {t : Template} (hscan : E.delimiters.segments 0 s = .after parts (.tail rest))
    (h : E.compile s = .ok t) : chunks E vs nested t.tail t.chunks =
      pieces E vs nested (E.partPieces parts ++ [.literal rest]) := by
  obtain ⟨t', ht', -, hpieces, hnames⟩ := Engine.compile_of_parts hE hscan
  obtain rfl : t = t' := Except.ok.inj (h.symm.trans ht')
  calc
    chunks E vs nested t.tail t.chunks = pieces E vs nested t.pieces :=
      (pieces_chunks _ hnames).symm
    _ = pieces E vs nested (E.partPieces parts ++ [.literal rest]) := by
      rw [hpieces, pieces_merge]

/-- **A compiled text means what the text means.** -/
theorem template_of_compile (hE : E.Linked) {s : Text} {t : Template}
    (h : E.compile s = .ok t) : template E vs t = inline E vs s := by
  obtain ⟨parts, rest, hscan⟩ := Engine.exists_parts_of_compile h
  rw [template, chunks_of_parts hE hscan h, pieces_append, pieces_literal, inline, hscan,
    segments_after, segments]

/-- **A text with a fault** means what the text before the fault means, when that fails, and
otherwise the fault.  The text before the fault compiles. -/
theorem inline_of_unmatched (hE : E.Linked) {s : Text} {e : Unmatched}
    (h : E.compile s = .error e) : ∃ a x t, s = a ++ x ∧ a.byteLength = e.position ∧
      E.compile a = .ok t ∧
        ∀ vs, inline E vs s = seq (template E vs t) (fail (.error (.parse e))) := by
  obtain ⟨parts, ⟨rest, hscan⟩ | ⟨position, hscan⟩⟩ :=
    (E.delimiters.segments 0 s).exists_parts
  · obtain ⟨t, ht, -⟩ := Engine.compile_of_parts hE hscan
    rw [ht] at h
    contradiction
  · obtain ⟨a, x, lead, hs, hpos, ha⟩ := Delimiters.exists_before_unmatched hscan
    obtain ⟨t, ht, -⟩ := Engine.compile_of_parts hE ha
    have he : e = ⟨E.delimiters.start, position⟩ := by
      rw [Engine.compile, hscan, Engine.compileSegments_of_unmatched] at h
      exact (Except.error.inj h).symm
    refine ⟨a, x, t, hs, ?_, ht, fun vs => ?_⟩
    · rw [he, ← hpos, Nat.zero_add]
    · -- the literal text before the marker cannot fail
      rw [template_of_compile hE ht, inline, inline, ha, hscan, segments_after, segments_after,
        seq_assoc, he]
      rfl

end Meaning

/-! ## 4. Two ways to render -/

/-- **Rendering a text is compiling it and rendering the template.**  A text that does not compile
fails: as the text before its unmatched marker fails, or else with the marker. -/
theorem Engine.replace_refines_compile {E : Engine} (hE : E.Built) (out : Bytes) (s : Text)
    (vs : Bindings) :
    (∀ t, E.compile s = .ok t → E.replace out s vs = E.render out t vs) ∧
      ∀ e, E.compile s = .error e → ∃ a x t, s = a ++ x ∧ a.byteLength = e.position ∧
        E.compile a = .ok t ∧ E.replace out s vs =
          (match (E.render out t vs).1 with
            | .error f => .error f
            | .ok _ => .error (.error (.parse e)), out) := by
  constructor
  · intro t ht
    rw [replace_eq, render_eq, Meaning.template_of_compile hE.linked ht]
  · intro e he
    obtain ⟨a, x, t, hs, hpos, ht, hmeaning⟩ := Meaning.inline_of_unmatched hE.linked he
    refine ⟨a, x, t, hs, hpos, ht, ?_⟩
    rw [replace_eq, render_eq, hmeaning]
    cases hr : Meaning.template E vs t out with
    | ok b =>
      rw [Meaning.seq_of_ok hr]
      rfl
    | error f =>
      rw [Meaning.seq_of_error hr]
      rfl

namespace Sample

/-- A text whose last marker is not closed. -/
def broken : Text := "To $\x7bNAME\x7d, $\x7bletter".toList

theorem replace_refines_compile_circular :
    (∃ t, engine.compile circular = .ok t ∧
      engine.replace [0x2D] circular bindings = engine.render [0x2D] t bindings) ∧
      engine.compile broken = .error ⟨"$\x7b".toList, 12⟩ ∧
      (∃ a x t, broken = a ++ x ∧ a.byteLength = 12 ∧ engine.compile a = .ok t ∧
        engine.replace [0x2D] broken bindings =
          (match (engine.render [0x2D] t bindings).1 with
            | .error f => .error f
            | .ok _ => .error (.error (.parse ⟨"$\x7b".toList, 12⟩)), [0x2D])) ∧
      engine.replace [0x2D] broken bindings =
        (.error (.error (.parse ⟨"$\x7b".toList, 12⟩)), [0x2D]) := by
  have hscan : engine.delimiters.segments 0 circular
      = .after circularParts (.tail ".".toList) := by decide +kernel
  obtain ⟨t, ht, -⟩ := Engine.compile_of_parts built_engine.linked hscan
  have hbroken : engine.compile broken = .error ⟨"$\x7b".toList, 12⟩ := by decide +kernel
  refine ⟨⟨t, ht, (Engine.replace_refines_compile built_engine [0x2D] circular bindings).1 t ht⟩,
    hbroken, (Engine.replace_refines_compile built_engine [0x2D] broken bindings).2 _ hbroken, ?_⟩
  rw [Engine.replace_eq]
  decide +kernel

end Sample
end Stencil
