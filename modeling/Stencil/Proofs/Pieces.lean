/-
# Templates as pieces

A template is literal text and tokens in turn.  Compiling threads the literal text that waits for
its next token through nested bodies; here its result is compared with pieces that are laid side by
side and joined afterwards.

* `Piece.merge`: joins neighbouring literals; no text and no token is lost (`literals_merge`,
  `tokens_merge`).
* `Engine.spliced`: what a resolved token leaves in a template: itself, or the pieces of the
  expansion it names, all references followed.
* `Body.pieces_splice`: splicing a body after waiting text is joining this text with its pieces.
* `Engine.compile_of_parts`: a text that is cut without a fault compiles to the joined pieces of its
  parts.
-/
import Stencil.Proofs.Canonical
import Stencil.Proofs.Linked
import Stencil.Proofs.Scanning

namespace Stencil

/-! ## 1. Pieces -/

/-- Literal text or a token. -/
inductive Piece
  | literal (s : Text)
  | token (t : Token)
deriving DecidableEq

namespace Piece

/-- Literal text in front of pieces, joined with the literal they start with. -/
def glue (s : Text) : List Piece → List Piece
  | .literal u :: ps => .literal (s ++ u) :: ps
  | ps => .literal s :: ps

/-- Joins neighbouring literals. -/
def merge : List Piece → List Piece
  | [] => []
  | .literal s :: ps => glue s (merge ps)
  | .token t :: ps => .token t :: merge ps

/-- The literal text of pieces. -/
def literals : List Piece → Text
  | [] => []
  | .literal s :: ps => s ++ literals ps
  | .token _ :: ps => literals ps

/-- The tokens of pieces. -/
def tokens : List Piece → List Token
  | [] => []
  | .literal _ :: ps => tokens ps
  | .token t :: ps => t :: tokens ps

/-- Pieces that start with a literal. -/
def Opens (ps : List Piece) : Prop := ∃ s qs, ps = .literal s :: qs

theorem glue_glue (s u : Text) (ps : List Piece) : glue s (glue u ps) = glue (s ++ u) ps := by
  rcases ps with _ | ⟨_ | _, ps⟩ <;> simp [glue]

theorem literals_glue (s : Text) (ps : List Piece) : literals (glue s ps) = s ++ literals ps := by
  rcases ps with _ | ⟨_ | _, ps⟩ <;> simp [glue, literals]

theorem tokens_glue (s : Text) (ps : List Piece) : tokens (glue s ps) = tokens ps := by
  rcases ps with _ | ⟨_ | _, ps⟩ <;> simp [glue, tokens]

/-- Joining keeps the literal text. -/
theorem literals_merge (ps : List Piece) : literals (merge ps) = literals ps := by
  induction ps with
  | nil => rfl
  | cons p ps ih =>
    cases p with
    | literal s => rw [merge, literals_glue, ih, literals]
    | token t => exact ih

/-- Joining keeps the tokens. -/
theorem tokens_merge (ps : List Piece) : tokens (merge ps) = tokens ps := by
  induction ps with
  | nil => rfl
  | cons p ps ih =>
    cases p with
    | literal s => rw [merge, tokens_glue, ih, tokens]
    | token t => rw [merge, tokens, ih, tokens]

/-- Two literals in front are one. -/
theorem merge_literal_literal (s u : Text) (ps : List Piece) :
    merge (.literal s :: .literal u :: ps) = merge (.literal (s ++ u) :: ps) :=
  glue_glue s u (merge ps)

theorem merge_literal_token (s : Text) (t : Token) (ps : List Piece) :
    merge (.literal s :: .token t :: ps) = .literal s :: .token t :: merge ps := rfl

theorem Opens.append {ps : List Piece} (h : Opens ps) (qs : List Piece) : Opens (ps ++ qs) := by
  obtain ⟨s, rest, rfl⟩ := h
  exact ⟨s, rest ++ qs, rfl⟩

/-- An empty literal in front of a literal is lost. -/
theorem Opens.merge_nil {ps : List Piece} (h : Opens ps) :
    merge (.literal [] :: ps) = merge ps := by
  obtain ⟨s, qs, rfl⟩ := h
  rw [merge_literal_literal, List.nil_append]

/-- Pieces in which each literal has a token after it are joined as they are. -/
theorem merge_alternating (f : Text → Token) (rest : Text) (parts : List (Text × Text)) :
    merge ((parts.flatMap fun p => [.literal p.1, .token (f p.2)]) ++ [.literal rest]) =
      (parts.flatMap fun p => [.literal p.1, .token (f p.2)]) ++ [.literal rest] := by
  induction parts with
  | nil => rfl
  | cons p parts ih =>
    rw [List.flatMap_cons, List.append_assoc, List.cons_append, List.cons_append, List.nil_append,
      merge_literal_token, ih]

end Piece

open Piece (merge literals tokens)

/-- The pieces of a chunk. -/
def Chunk.pieces (c : Chunk) : List Piece := [.literal c.lead, .token c.token]

/-- The pieces of a template. -/
def Template.pieces (t : Template) : List Piece :=
  t.chunks.flatMap Chunk.pieces ++ [.literal t.tail]

/-- The pieces of a body, all references followed. -/
def Body.pieces : Body → List Piece
  | .done s => [.literal s]
  | .token lead t rest => .literal lead :: .token t :: rest.pieces
  | .expand lead _ b rest => .literal lead :: (b.pieces ++ rest.pieces)

/-! ## 2. Splicing -/

namespace Body

/-- The pieces of a body start with a literal. -/
theorem opens_pieces : ∀ b : Body, Piece.Opens b.pieces
  | .done s => ⟨s, [], rfl⟩
  | .token lead t rest => ⟨lead, .token t :: rest.pieces, rfl⟩
  | .expand lead _ b rest => ⟨lead, b.pieces ++ rest.pieces, rfl⟩

/-- **Splicing is joining.**  The chunks of a spliced body and the text that waits after them are
the joined pieces of the body behind the text that waited before. -/
theorem pieces_splice : ∀ (b : Body) (pending : Text) (ps : List Piece),
    merge (.literal pending :: (b.pieces ++ ps)) =
      (b.splice pending).1.flatMap Chunk.pieces ++ merge (.literal (b.splice pending).2 :: ps)
  | .done s, pending, ps => by
    rw [pieces, List.singleton_append, Piece.merge_literal_literal, splice]
    rfl
  | .token lead t rest, pending, ps => by
    rw [pieces, List.cons_append, List.cons_append, Piece.merge_literal_literal,
      Piece.merge_literal_token, ← (rest.opens_pieces.append ps).merge_nil,
      pieces_splice rest [] ps]
    rfl
  | .expand lead t b rest, pending, ps => by
    rw [pieces, List.cons_append, List.append_assoc, Piece.merge_literal_literal,
      pieces_splice b (pending ++ lead) (rest.pieces ++ ps), pieces_splice rest _ ps, splice,
      List.flatMap_append, List.append_assoc]

/-- Splicing leaves no token that names a body. -/
theorem get?_of_mem_splice {bodies : Dict Body}
    (hlinked : ∀ ⦃name b⦄, bodies.get? name = some b → b.Linked bodies) :
    ∀ {b : Body} {pending : Text}, b.Linked bodies →
      ∀ c ∈ (b.splice pending).1, bodies.get? c.token.name = none
  | .done _, _, _, c, hc => by simp [splice] at hc
  | .token lead t rest, pending, ⟨ht, hrest⟩, c, hc => by
    simp only [splice, List.mem_cons] at hc
    rcases hc with rfl | hc
    · exact ht
    · exact get?_of_mem_splice hlinked hrest c hc
  | .expand lead t b rest, pending, ⟨ht, hrest⟩, c, hc => by
    simp only [splice, List.mem_append] at hc
    rcases hc with hc | hc
    · exact get?_of_mem_splice hlinked (hlinked ht) c hc
    · exact get?_of_mem_splice hlinked hrest c hc

end Body

/-! ## 3. Tokens and what they leave -/

namespace Engine

variable (E : Engine)

/-- What a resolved token leaves in a template. -/
def spliced (t : Token) : List Piece :=
  match E.bodies.get? t.name with
  | none => [.token t]
  | some b => b.pieces

/-- The pieces of parts: of each the literal text, and what its token leaves. -/
def partPieces (parts : List (Text × Text)) : List Piece :=
  parts.flatMap fun p => .literal p.1 :: E.spliced (E.resolveToken p.2)

theorem partPieces_cons (lead body : Text) (parts : List (Text × Text)) :
    E.partPieces ((lead, body) :: parts) =
      .literal lead :: (E.spliced (E.resolveToken body) ++ E.partPieces parts) := rfl

/-- A resolved token names its macro after one step through the aliases. -/
theorem name_resolveToken (body : Text) :
    (E.resolveToken body).name = E.aliases.resolve (Token.split body.trim).1 :=
  Token.name_make (E.aliases.colon_not_mem_resolve (Token.not_mem_split _)) _

/-- What follows the macro is the chain of the filters, -/
theorem suffix_resolveToken (body : Text) : (E.resolveToken body).suffix =
    Token.chain (Token.filterNames (Token.split body.trim).2) :=
  Token.suffix_make (E.aliases.colon_not_mem_resolve (Token.not_mem_split _)) _

/-- so that it names the filters which stand after the first colon, -/
theorem filters_resolveToken (body : Text) :
    (E.resolveToken body).filters = Token.filterNames (Token.split body.trim).2 := by
  rw [Token.filters, suffix_resolveToken, Token.filterNames_canonical]

/-- and it is written as this macro and these filters, with a colon before each. -/
theorem text_resolveToken (body : Text) :
    (E.resolveToken body).text = E.aliases.resolve (Token.split body.trim).1 ++
      (Token.filterNames (Token.split body.trim).2).flatMap (':' :: ·) := by
  have htext : (E.resolveToken body).text = E.aliases.resolve (Token.split body.trim).1 ++
      Token.chain (Token.filterNames (Token.split body.trim).2) := rfl
  rw [htext, Token.chain, Token.filter_filterNames]

variable {E}

/-- The pieces of a linked body, reference by reference. -/
theorem pieces_of_linked : ∀ {b : Body}, b.Linked E.bodies →
    b.pieces = b.chunks.flatMap (fun c => .literal c.lead :: E.spliced c.token) ++ [.literal b.tail]
  | .done _, _ => rfl
  | .token lead t rest, ⟨ht, hrest⟩ => by
    rw [Body.pieces, pieces_of_linked hrest]
    simp [Body.chunks, Body.tail, spliced, ht]
  | .expand lead t b rest, ⟨ht, hrest⟩ => by
    rw [Body.pieces, pieces_of_linked hrest]
    simp [Body.chunks, Body.tail, spliced, ht]

/-- **What a token leaves**: itself when it names no expansion, and otherwise what the tokens of
the expansion leave, with the literal text around them. -/
theorem spliced_eq (hE : E.Linked) (t : Token) : E.spliced t =
    match E.expansion? t.name with
    | none => [.token t]
    | some d =>
      d.chunks.flatMap (fun c => .literal c.lead :: E.spliced c.token) ++ [.literal d.tail] := by
  cases hb : E.bodies.get? t.name with
  | none => simp [spliced, expansion?, hb]
  | some b =>
    simp only [spliced, expansion?, hb, Option.map_some]
    exact pieces_of_linked (hE hb)

/-! ## 4. Compiling parts -/

/-- Parts and a rest start with a literal. -/
theorem opens_partPieces (parts : List (Text × Text)) (rest : Text) :
    Piece.Opens (E.partPieces parts ++ [.literal rest]) := by
  cases parts with
  | nil => exact ⟨rest, [], rfl⟩
  | cons p parts => exact ⟨p.1, _, rfl⟩

/-- Parts without a fault compile, after whatever text waits for its token, to their pieces. -/
theorem compileSegments_of_parts (hE : E.Linked) (rest : Text) :
    ∀ (parts : List (Text × Text)) (pending : Text), ∃ chunks tail,
      E.compileSegments pending (.after parts (.tail rest)) = .ok (chunks, tail) ∧
        chunks.flatMap Chunk.pieces ++ [.literal tail] =
          merge (.literal pending :: (E.partPieces parts ++ [.literal rest])) ∧
        ∀ c ∈ chunks, E.bodies.get? c.token.name = none
  | [], pending => ⟨[], pending ++ rest, rfl, rfl, by simp⟩
  | (lead, body) :: parts, pending => by
    cases hb : E.bodies.get? (E.resolveToken body).name with
    | none =>
      obtain ⟨chunks, tail, hok, hpieces, hnames⟩ := compileSegments_of_parts hE rest parts []
      refine ⟨⟨pending ++ lead, E.resolveToken body⟩ :: chunks, tail, ?_, ?_, ?_⟩
      · rw [name_resolveToken] at hb
        simp only [Segments.after, compileSegments, hb, hok]
        rfl
      · rw [List.flatMap_cons, List.append_assoc, hpieces, (opens_partPieces parts rest).merge_nil,
          partPieces_cons, spliced, hb, List.cons_append, Piece.merge_literal_literal]
        rfl
      · intro c hc
        rcases List.mem_cons.mp hc with rfl | hc
        · exact hb
        · exact hnames c hc
    | some b =>
      obtain ⟨chunks, tail, hok, hpieces, hnames⟩ :=
        compileSegments_of_parts hE rest parts (b.splice (pending ++ lead)).2
      refine ⟨(b.splice (pending ++ lead)).1 ++ chunks, tail, ?_, ?_, ?_⟩
      · rw [name_resolveToken] at hb
        simp only [Segments.after, compileSegments, hb, hok]
      · rw [List.flatMap_append, List.append_assoc, hpieces, ← Body.pieces_splice,
          ← Piece.merge_literal_literal, partPieces_cons, spliced, hb, List.cons_append,
          List.append_assoc]
      · intro c hc
        rcases List.mem_append.mp hc with hc | hc
        · exact Body.get?_of_mem_splice hE (hE hb) c hc
        · exact hnames c hc

/-- **A text that is cut without a fault compiles**, and its template is the joined pieces of its
parts. -/
theorem compile_of_parts (hE : E.Linked) {source rest : Text} {parts : List (Text × Text)}
    (hscan : E.delimiters.segments 0 source = .after parts (.tail rest)) :
    ∃ t, E.compile source = .ok t ∧ t.delimiters = E.delimiters ∧
      t.pieces = merge (E.partPieces parts ++ [.literal rest]) ∧
      ∀ c ∈ t.chunks, E.expansion? c.token.name = none := by
  obtain ⟨chunks, tail, hok, hpieces, hnames⟩ := E.compileSegments_of_parts hE rest parts []
  refine ⟨⟨chunks, tail, E.delimiters⟩, ?_, rfl, ?_, fun c hc => ?_⟩
  · rw [compile, hscan, hok]
  · rw [Template.pieces, hpieces, (opens_partPieces parts rest).merge_nil]
  · rw [expansion?, hnames c hc, Option.map_none]

/-- An unmatched marker is reported, whatever parts stand before it. -/
theorem compileSegments_of_unmatched (position : Nat) :
    ∀ (parts : List (Text × Text)) (pending : Text),
      E.compileSegments pending (.after parts (.unmatched position)) =
        .error ⟨E.delimiters.start, position⟩
  | [], _ => rfl
  | (lead, body) :: parts, pending => by
    simp only [Segments.after, compileSegments]
    cases E.bodies.get? (E.aliases.resolve (Token.split body.trim).1) with
    | none => simp only [compileSegments_of_unmatched position parts]
    | some b => simp only [compileSegments_of_unmatched position parts]

/-- A text that compiles is cut without a fault. -/
theorem exists_parts_of_compile {source : Text} {t : Template} (h : E.compile source = .ok t) :
    ∃ parts rest, E.delimiters.segments 0 source = .after parts (.tail rest) := by
  obtain ⟨parts, ⟨rest, hscan⟩ | ⟨position, hscan⟩⟩ :=
    (E.delimiters.segments 0 source).exists_parts
  · exact ⟨parts, rest, hscan⟩
  · rw [compile, hscan, compileSegments_of_unmatched] at h
    contradiction

/-- A text that compiles is cut into parts, and its template is their joined pieces. -/
theorem exists_pieces_of_compile (hE : E.Linked) {source : Text} {t : Template}
    (h : E.compile source = .ok t) : ∃ parts rest,
      E.delimiters.segments 0 source = .after parts (.tail rest) ∧
        t.pieces = merge (E.partPieces parts ++ [.literal rest]) ∧
        ∀ c ∈ t.chunks, E.expansion? c.token.name = none := by
  obtain ⟨parts, rest, hscan⟩ := exists_parts_of_compile h
  obtain ⟨t', ht', -, hpieces, hnames⟩ := compile_of_parts hE hscan
  obtain rfl : t = t' := Except.ok.inj (h.symm.trans ht')
  exact ⟨parts, rest, hscan, hpieces, hnames⟩

/-! ## 5. Stored bodies -/

/-- `d` is `text` cut at its markers, with each token resolved once and none spliced. -/
def ReadsAs (E : Engine) (text : Text) (d : Template) : Prop :=
  ∃ parts rest, E.delimiters.segments 0 text = .after parts (.tail rest) ∧
    d.pieces = (parts.flatMap fun p => [.literal p.1, .token (E.resolveToken p.2)])
      ++ [.literal rest]

variable {s : Settings}

/-- Before its expansions are installed an engine splices nothing. -/
theorem readsAs_of_bare_compile {text : Text} {d : Template}
    (h : (bare s).compile text = .ok d) : (bare s).ReadsAs text d := by
  have hlinked : (bare s).Linked := fun name b hb => by simp [bare] at hb
  obtain ⟨parts, rest, hscan, hpieces, -⟩ := exists_pieces_of_compile hlinked h
  have hparts : (bare s).partPieces parts =
      parts.flatMap fun p => [.literal p.1, .token ((bare s).resolveToken p.2)] := by
    simp [partPieces, spliced, bare]
  rw [hparts, Piece.merge_alternating] at hpieces
  exact ⟨parts, rest, hscan, hpieces⟩

/-- **An expansion is stored as its text reads**, and nothing else is stored. -/
theorem readsAs_of_build (h : build s = .ok E) (name : Text) :
    match s.expansions.texts.get? name with
    | none => E.expansion? name = none
    | some text => ∃ d, E.expansion? name = some d ∧ E.ReadsAs text d := by
  obtain ⟨hnone, hsome⟩ := expansion?_of_build h name
  split
  · next htext => exact hnone htext
  · next text htext =>
    obtain ⟨d, hd, hname⟩ := hsome text htext
    obtain ⟨-, -, -, hE⟩ := exists_of_build h
    refine ⟨d, hname, ?_⟩
    rw [hE]
    exact readsAs_of_bare_compile hd

/-! ## 6. Compilation -/

/-- **Compilation is scanning, resolving once and splicing.**  The template of a text that is cut
without a fault is the joined pieces of its parts, where a token, its macro resolved and its filters
in canonical form, leaves itself or the expansion it names, taken from the bodies that were stored
when the engine was built.  An engine of a
configuration is built from settings, too (`Config.exists_settings`). -/
theorem compile_is_splice (h : build s = .ok E) {source rest : Text} {parts : List (Text × Text)}
    (hscan : E.delimiters.segments 0 source = .after parts (.tail rest)) :
    source = (parts.flatMap fun p => p.1 ++ E.delimiters.placeholder p.2) ++ rest ∧
      (∃ t, E.compile source = .ok t ∧ t.delimiters = E.delimiters ∧
        t.pieces = merge (E.partPieces parts ++ [.literal rest]) ∧
        literals t.pieces = literals (E.partPieces parts ++ [.literal rest]) ∧
        tokens t.pieces = tokens (E.partPieces parts ++ [.literal rest]) ∧
        ∀ c ∈ t.chunks, E.expansion? c.token.name = none) ∧
      (∀ body, (E.resolveToken body).name = E.aliases.resolve (Token.split body.trim).1 ∧
        (E.resolveToken body).filters = Token.filterNames (Token.split body.trim).2 ∧
        (E.resolveToken body).text = E.aliases.resolve (Token.split body.trim).1 ++
          (Token.filterNames (Token.split body.trim).2).flatMap (':' :: ·)) ∧
      (∀ t, E.spliced t =
        match E.expansion? t.name with
        | none => [.token t]
        | some d =>
          d.chunks.flatMap (fun c => .literal c.lead :: E.spliced c.token) ++ [.literal d.tail]) ∧
      ∀ name, match s.expansions.texts.get? name with
        | none => E.expansion? name = none
        | some text => ∃ d, E.expansion? name = some d ∧ E.ReadsAs text d := by
  have hE := linked_of_build h
  obtain ⟨t, ht, hd, hpieces, hnames⟩ := compile_of_parts hE hscan
  refine ⟨Delimiters.eq_of_segments hscan, ⟨t, ht, hd, hpieces, ?_, ?_, hnames⟩,
    fun body => ⟨E.name_resolveToken body, E.filters_resolveToken body, E.text_resolveToken body⟩,
    spliced_eq hE, readsAs_of_build h⟩
  · rw [hpieces, Piece.literals_merge]
  · rw [hpieces, Piece.tokens_merge]

end Engine

namespace Sample

/-- A text with an expansion whose filter is dropped, and an alias with empty filters. -/
def circular : Text := "Re: $\x7bletter:upper\x7d / $\x7b NAME::hex: \x7d.".toList

def circularParts : List (Text × Text) :=
  [("Re: ".toList, "letter:upper".toList), (" / ".toList, " NAME::hex: ".toList)]

theorem compile_circular_is_splice : Engine.build settings = .ok engine ∧
    engine.delimiters.segments 0 circular = .after circularParts (.tail ".".toList) ∧
    ∃ t, engine.compile circular = .ok t ∧ t.pieces =
      [.literal "Re: Hello, ".toList, .token ⟨"name:upper".toList⟩, .literal "! ".toList,
        .token ⟨"secret".toList⟩, .literal " / ".toList, .token ⟨"name:hex".toList⟩,
        .literal ".".toList] := by
  have hscan : engine.delimiters.segments 0 circular
      = .after circularParts (.tail ".".toList) := by decide +kernel
  obtain ⟨-, ⟨t, ht, -, hpieces, -⟩, -⟩ := Engine.compile_is_splice build_settings hscan
  refine ⟨build_settings, hscan, t, ht, ?_⟩
  rw [hpieces]
  decide +kernel

end Sample
end Stencil
