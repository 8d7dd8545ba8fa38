/-
# Three ways of writing a template back

A text that was compiled can be had back as text in three ways: the template writes itself with the
markers it remembers, the engine writes it and looks for expansions to put in place, and rendering
echoes all of it when all its macros are on the skip list.  The first two go through the tokens as
they stand; an echo splits a token, leaves out its empty filters and joins it again.  All three come
to the same text.

* `Engine.canonical_of_compile`: the tokens of a compiled template are canonical, wherever they come
  from, and `Delimiters.echo_of_canonical`: a canonical token is echoed as it stands.
* `Meaning.chunks_of_echoed`: chunks with echoed macros mean their written form.
* `Engine.writings_agree`: the three ways agree.
-/
import Stencil.Proofs.ByName
import Stencil.Proofs.Decoding
import Stencil.Proofs.ReadBack
import Stencil.Proofs.Reach

namespace Stencil

/-! ## 1. Tokens of compiled templates -/

/-- An echo of a canonical token is the token between the markers. -/
theorem Delimiters.echo_of_canonical (d : Delimiters) {k : Token} (h : ByName.Canonical k) :
    d.echo k.name k.suffix = d.placeholder k.text := by
  have htext : k.name ++ Token.chain (Token.filterNames k.suffix) = k.text := congrArg Token.text h
  rw [echo, htext]

namespace Engine

variable {E : Engine} {s : Text} {t : Template}

/-- **The tokens of a compiled template are canonical**: each is a token of the text, made when it
was resolved, or comes out of a stored body, and was made when this was compiled. -/
theorem canonical_of_compile (hE : E.Built) (h : E.compile s = .ok t) {k : Token}
    (hk : k ∈ t.tokens) : ByName.Canonical k := by
  obtain ⟨settings, hbuild⟩ := hE.exists_settings
  obtain ⟨parts, rest, -, hpieces, -⟩ := exists_pieces_of_compile hE.linked h
  rw [← tokens_pieces, hpieces, Piece.tokens_merge, Piece.mem_tokens] at hk
  have hpart : .token k ∈ E.partPieces parts := by simpa using hk
  exact of_mem_partPieces hE.linked (canonical_of_build hbuild)
    (fun p _ => E.canonical_resolveToken p.2) hpart

/-- No token of a compiled template names an expansion. -/
theorem expansion?_of_compile (hE : E.Linked) (h : E.compile s = .ok t) {k : Token}
    (hk : k ∈ t.tokens) : E.expansion? k.name = none := by
  obtain ⟨parts, rest, -, -, hnames⟩ := exists_pieces_of_compile hE h
  obtain ⟨c, hc, rfl⟩ := List.mem_map.mp hk
  exact hnames c hc

end Engine

/-! ## 2. Echoed templates -/

namespace Meaning

variable {E : Engine} {vs : Bindings} {nested : Text → Template → Writing}

/-- A macro that is echoed means its token as it stands. -/
theorem token_of_echoed {k : Token} (hnone : E.expansion? k.name = none)
    (hskip : E.skip.contains k.name = true) (hk : ByName.Canonical k) :
    token E vs nested k.name k.suffix = text (E.delimiters.placeholder k.text) := by
  rw [token_of_not_expansion hnone, leaf, if_pos hskip, E.delimiters.echo_of_canonical hk]

/-- **Chunks with echoed macros mean their written form.** -/
theorem chunks_of_echoed (tail : Text) : ∀ {cs : List Chunk},
    (∀ c ∈ cs, E.expansion? c.token.name = none) →
    (∀ c ∈ cs, E.skip.contains c.token.name = true) →
    (∀ c ∈ cs, ByName.Canonical c.token) →
      chunks E vs nested tail cs = text (cs.flatMap (Template.chunkSource E.delimiters) ++ tail)
  | [], _, _, _ => rfl
  | c :: cs, hnone, hskip, hcanon => by
    obtain ⟨hnone, hnones⟩ := List.forall_mem_cons.mp hnone
    obtain ⟨hskip, hskips⟩ := List.forall_mem_cons.mp hskip
    obtain ⟨hcanon, hcanons⟩ := List.forall_mem_cons.mp hcanon
    rw [chunks, token_of_echoed hnone hskip hcanon, chunks_of_echoed tail hnones hskips hcanons,
      seq_text_text, seq_text_text, List.flatMap_cons, Template.chunkSource]
    simp only [List.append_assoc]

/-- A text that a call comes to is what the call gives as text. -/
theorem decoded_onto_text (s : Text) : Engine.decoded (onto [] (text s [])) = .ok s := by
  rw [text, onto, List.nil_append, Engine.decoded, Utf8.decode?_eq_some_iff.mpr rfl]

end Meaning

/-! ## 3. The three ways -/

/-- **The three ways of writing a template back agree.**  The engine writes a compiled template as
the template writes itself.  When all macros of the template are on the skip list, rendering it gives
this text, too, and so does rendering the text that it was compiled from, whatever is bound. -/
theorem Engine.writings_agree {E : Engine} (hE : E.Built) {s : Text} {t : Template}
    (h : E.compile s = .ok t) :
    E.source t = t.source ∧
      ((∀ k ∈ t.tokens, E.skip.contains k.name = true) →
        ∀ vs, E.replaceText s vs = .ok t.source ∧ E.renderText t vs = .ok t.source) := by
  have hd : t.delimiters = E.delimiters := delimiters_of_compile h
  have hplain : ∀ k ∈ t.tokens, E.expansion? k.name = none :=
    fun k hk => expansion?_of_compile hE.linked h hk
  refine ⟨source_eq hd hplain, fun hskip vs => ?_⟩
  have hmeaning : Meaning.template E vs t = Meaning.text t.source := by
    rw [Meaning.template, Template.source, hd]
    exact Meaning.chunks_of_echoed t.tail
      (fun c hc => hplain _ (List.mem_map_of_mem hc))
      (fun c hc => hskip _ (List.mem_map_of_mem hc))
      (fun c hc => canonical_of_compile hE h (List.mem_map_of_mem hc))
  constructor
  · rw [replaceText, replace_eq, ← Meaning.template_of_compile hE.linked h, hmeaning,
      Meaning.decoded_onto_text]
  · rw [renderText, render_eq, hmeaning, Meaning.decoded_onto_text]

namespace Sample

/-- The sample settings with all macros of their expansions echoed. -/
def muted : Settings :=
  { settings with skip := .ofList ["secret:hex".toList, " name".toList, "é".toList] }

def mutedEngine : Engine := { engine with skip := muted.skip }

theorem built_muted : mutedEngine.Built :=
  .settings (Engine.build_with settings.filters muted.skip settings.fallback build_settings)

/-- An expansion with a filter, an alias with empty filters, blanks around a token and before a
filter, and a filter that is not registered. -/
def scrawl : Text := "Re: $\x7bletter:upper\x7d / $\x7b NAME::hex:: \x7d$\x7bé: nope\x7d.".toList

theorem writings_agree_scrawl : ∃ t, mutedEngine.compile scrawl = .ok t ∧
    t.source = "Re: Hello, $\x7bname:upper\x7d! $\x7bsecret\x7d / ".toList
      ++ "$\x7bname:hex\x7d$\x7bé: nope\x7d.".toList ∧
    mutedEngine.source t = t.source ∧
    (∀ k ∈ t.tokens, mutedEngine.skip.contains k.name = true) ∧
    ∀ vs, mutedEngine.replaceText scrawl vs = .ok t.source ∧
      mutedEngine.renderText t vs = .ok t.source := by
  have hcompile : mutedEngine.compile scrawl = .ok
      ⟨[⟨"Re: Hello, ".toList, ⟨"name:upper".toList⟩⟩, ⟨"! ".toList, ⟨"secret".toList⟩⟩,
        ⟨" / ".toList, ⟨"name:hex".toList⟩⟩, ⟨[], ⟨"é: nope".toList⟩⟩], ".".toList, .standard⟩ := by
    decide +kernel
  obtain ⟨hsource, hechoed⟩ := Engine.writings_agree built_muted hcompile
  have hskip : ∀ k ∈ [(⟨"name:upper".toList⟩ : Token), ⟨"secret".toList⟩, ⟨"name:hex".toList⟩,
      ⟨"é: nope".toList⟩], mutedEngine.skip.contains k.name = true := by decide +kernel
  exact ⟨_, hcompile, by decide +kernel, hsource, hskip, hechoed hskip⟩

end Sample
end Stencil
