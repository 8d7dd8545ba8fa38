/-
# Reading a written template back

A template is written as text (`Template.source`) and compiled again.  That gives its literal text
and its tokens back when its markers can be found where they were written; the tokens are then
trimmed and joined again on the way.

* `Template.Stands`: markers are found where they were written.
* `Token.reread`: a token after it was written and read.  `Token.reread_eq_iff` says which tokens
  come back as they were.
* `Engine.compile_source`: what comes back of a template that stands out, in an engine in which a
  macro means itself.
* `Engine.compile_source_of_tidy`: the template itself, for any two markers.
* `Engine.compile_source_iff`: a template compiled with the standard markers comes back exactly when
  no token of it starts or ends with a blank.
-/
import Stencil.Proofs.Grammar

namespace Stencil

/-! ## 1. First occurrences and the text around them -/

namespace Text

variable {w s a b : Text} {c : Char}

/-- A first occurrence is the first one, too, in the text up to its end. -/
theorem First.front (h : First w s a b) : First w (a ++ w) a [] := by
  refine ⟨by simp, fun {a' b'} heq => ?_⟩
  have hs : s = a' ++ w ++ (b' ++ b) := by rw [h.eq, heq, List.append_assoc]
  exact h.le hs

/-- An occurrence that ends within `x` ends a front of `x`. -/
theorem prefix_of_occurrence {x y a' b' : Text} (heq : x ++ y = a' ++ w ++ b')
    (hlen : a'.length + w.length ≤ x.length) : a' ++ w <+: x := by
  have hfront : a' ++ w <+: x ++ y := ⟨b', heq.symm⟩
  exact List.prefix_of_prefix_length_le hfront ⟨y, rfl⟩ (by simpa using hlen)

/-- **A first occurrence stays the first** whatever text comes after it. -/
theorem First.append (h : First w (a ++ w) a []) (b : Text) : First w (a ++ w ++ b) a b := by
  refine ⟨rfl, fun {a' b'} heq => ?_⟩
  by_contra hlt
  obtain ⟨b'', hb''⟩ : a' ++ w <+: a ++ w := prefix_of_occurrence heq (by simp; omega)
  exact hlt (h.le hb''.symm)

/-- A character that a text does not hold is met first at its end. -/
theorem first_singleton (h : c ∉ a) : First [c] (a ++ [c]) a [] := by
  refine ⟨by simp, fun {a' b'} heq => ?_⟩
  by_contra hlt
  have hpre : a' ++ [c] <+: a := prefix_of_occurrence heq (by simp; omega)
  exact h (hpre.subset (by simp))

/-- Before the first occurrence of a character there is none. -/
theorem First.not_mem (h : First [c] s a b) : c ∉ a := by
  intro hmem
  obtain ⟨x, y, rfl⟩ := List.append_of_mem hmem
  have hocc : s = x ++ [c] ++ (y ++ [c] ++ b) := by
    rw [h.eq]
    simp
  have hle := h.le hocc
  simp only [List.length_append, List.length_cons] at hle
  omega

end Text

/-! ## 2. Written tokens -/

namespace Token

/-- A token without blanks around it and without empty filters. -/
structure Tidy (k : Token) : Prop where
  trimmed : k.text.trim = k.text
  full : [] ∉ (k.suffix.splitOn ':').tail

/-- A token that was written and read: trimmed, split and joined again. -/
def reread (k : Token) : Token := rejoin k.text.trim

/-- **A token comes back** exactly when it is tidy. -/
theorem reread_eq_iff {k : Token} : k.reread = k ↔ k.Tidy := by
  have hrejoin (h : k.text.trim = k.text) :
      k.reread = k ↔ [] ∉ (k.suffix.splitOn ':').tail := by
    rw [reread, h]
    exact rejoin_eq_iff
  constructor
  · intro h
    -- nothing was taken out on the way, so trimming took nothing
    have hlen : k.reread.text.length ≤ k.text.trim.length :=
      (rejoin_sublist k.text.trim).length_le
    rw [h] at hlen
    have htrim : k.text.trim = k.text := (Text.trim_isInfix k.text).sublist.eq_of_length_le hlen
    exact ⟨htrim, (hrejoin htrim).mp h⟩
  · rintro ⟨htrim, hfull⟩
    exact (hrejoin htrim).mpr hfull

/-- A token that was joined once has no empty filter. -/
theorem tidy_rejoin_iff {s : Text} :
    (rejoin s).Tidy ↔ (rejoin s).text.trim = (rejoin s).text :=
  ⟨Tidy.trimmed, fun h => ⟨h, rejoin_eq_iff.mp (rejoin_rejoin s)⟩⟩

end Token

/-! ## 3. Written templates -/

/-- **A chunk that stands out where it is written**: with its markers around the token, the first
start marker after the literal text is its own, so is the first end marker after that, and its
token holds no start marker. -/
structure Chunk.Stands (d : Delimiters) (c : Chunk) : Prop where
  lead : Text.First d.start (c.lead ++ d.start) c.lead []
  token : Text.First d.stop (c.token.text ++ d.stop) c.token.text []
  plain : ¬ d.start <:+: c.token.text

namespace Template

/-- A template whose chunks stand out and whose tail holds no start marker. -/
structure Stands (t : Template) : Prop where
  chunks : ∀ c ∈ t.chunks, c.Stands t.delimiters
  tail : ¬ t.delimiters.start <:+: t.tail

/-- The chunks of a template as parts of a text. -/
def parts (t : Template) : List (Text × Text) := t.chunks.map fun c => (c.lead, c.token.text)

/-- The template with its tokens written and read. -/
def reread (t : Template) : Template :=
  ⟨t.chunks.map fun c => ⟨c.lead, c.token.reread⟩, t.tail, t.delimiters⟩

/-- A template comes back when its tokens do. -/
theorem reread_eq_iff {t : Template} : t.reread = t ↔ ∀ k ∈ t.tokens, k.Tidy := by
  have hchunks : t.reread = t ↔
      t.chunks.map (fun c => ⟨c.lead, c.token.reread⟩) = t.chunks.map id := by
    obtain ⟨chunks, tail, d⟩ := t
    simp [reread]
  have hchunk (c : Chunk) : (⟨c.lead, c.token.reread⟩ : Chunk) = id c ↔ c.token.Tidy := by
    rw [← Token.reread_eq_iff]
    exact (Chunk.mk.injEq ..).to_iff.trans (and_iff_right rfl)
  rw [hchunks, List.map_inj_left, tokens, List.forall_mem_map]
  exact forall₂_congr fun c _ => hchunk c

end Template

namespace Delimiters

variable {d : Delimiters}

/-- A chunk that stands out opens the text that it is written at the front of. -/
theorem opens_of_stands {c : Chunk} (h : c.Stands d) (after : Text) :
    d.Opens (Template.chunkSource d c ++ after) c.lead c.token.text after := by
  have hstart := h.lead.append (c.token.text ++ d.stop ++ after)
  refine ⟨?_, h.token.append after, h.plain⟩
  have heq : Template.chunkSource d c ++ after =
      c.lead ++ d.start ++ (c.token.text ++ d.stop ++ after) := by
    simp [Template.chunkSource, placeholder]
  rw [heq]
  exact hstart

/-- Chunks that stand out are cut off one by one. -/
theorem cuts_of_stands (rest : Text) : ∀ {cs : List Chunk}, (∀ c ∈ cs, c.Stands d) →
    d.Cuts (cs.flatMap (Template.chunkSource d) ++ rest)
      (cs.map fun c => (c.lead, c.token.text)) rest
  | [], _ => .nil
  | c :: cs, h => by
    have hcs := cuts_of_stands rest fun c' hc' => h c' (List.mem_cons_of_mem _ hc')
    rw [List.flatMap_cons, List.append_assoc]
    exact .cons (opens_of_stands (h c List.mem_cons_self) _) hcs

/-- **The written form of such a template is cut into its chunks and its tail.** -/
theorem grammatical_source {t : Template} (h : t.Stands) :
    t.delimiters.Grammatical t.source t.parts t.tail :=
  ⟨cuts_of_stands t.tail h.chunks, h.tail⟩

/-- Every part that is cut off opens the text that is left before it. -/
theorem Cuts.exists_opens {s rest : Text} {parts : List (Text × Text)} (h : d.Cuts s parts rest) :
    ∀ p ∈ parts, ∃ s' after, d.Opens s' p.1 p.2 after := by
  induction h with
  | nil => simp
  | cons hopens _ ih =>
    intro p hp
    rcases List.mem_cons.mp hp with rfl | hp
    · exact ⟨_, _, hopens⟩
    · exact ih p hp

/-- **Between the standard markers every token stands out** that was read between them: it holds
no closing brace, as its body does not, and its start marker would stand in its body, too. -/
theorem stands_of_opens {s lead body after : Text} (h : standard.Opens s lead body after) :
    Chunk.Stands standard ⟨lead, Token.rejoin body.trim⟩ := by
  have hsub : (Token.rejoin body.trim).text.Sublist body :=
    (Token.rejoin_sublist _).trans (Text.trim_isInfix body).sublist
  refine ⟨h.start.front, Text.first_singleton fun hmem => ?_, fun hin => ?_⟩
  · exact h.stop.not_mem (hsub.subset hmem)
  · have htrim : standard.start <:+: body.trim := Token.isInfix_of_rejoin (by decide) hin
    exact h.plain (htrim.trans (Text.trim_isInfix body))

end Delimiters

/-! ## 4. Compiling what was written -/

namespace Engine

/-- Neither aliases nor expansions are declared, so that every macro means itself. -/
structure Direct (E : Engine) : Prop where
  aliases : E.aliases.size = 0
  bodies : E.bodies.size = 0

variable {E : Engine}

/-- An engine is direct when its settings declare nothing. -/
theorem direct_of_build {s : Settings} (h : build s = .ok E) (haliases : s.aliases.size = 0)
    (hexpansions : s.expansions.toList = []) : E.Direct := by
  have hbuild : build s = .ok { bare s with bodies := .empty } := by
    simp only [build, hexpansions, compileAll]
    rfl
  rw [hbuild] at h
  obtain rfl := Except.ok.inj h
  exact ⟨haliases, rfl⟩

/-- In a dictionary without entries nothing is bound. -/
theorem get?_of_size_eq_zero {α : Type} {d : Dict α} (h : d.size = 0) (name : Text) :
    d.get? name = none := by
  have hnil : d.entries = [] := List.length_eq_zero_iff.mp h
  rw [Dict.get?, hnil]
  rfl

theorem Direct.resolve (hE : E.Direct) (name : Text) : E.aliases.resolve name = name := by
  rw [AliasMap.resolve, get?_of_size_eq_zero hE.aliases]
  rfl

/-- Where nothing is declared, a token is read by splitting and joining. -/
theorem Direct.resolveToken (hE : E.Direct) (s : Text) : E.resolveToken s = Token.rejoin s.trim := by
  simp only [Engine.resolveToken, hE.resolve]
  rfl

theorem Direct.compileSegments (hE : E.Direct) (rest : Text) : ∀ parts : List (Text × Text),
    E.compileSegments [] (.after parts (.tail rest)) =
      .ok (parts.map fun p => ⟨p.1, Token.rejoin p.2.trim⟩, rest)
  | [] => rfl
  | (lead, body) :: parts => by
    simp only [Segments.after, Engine.compileSegments, get?_of_size_eq_zero hE.bodies,
      hE.compileSegments rest parts, hE.resolve]
    rfl

/-- **A text in the grammar compiles part by part.** -/
theorem Direct.compile (hE : E.Direct) {s rest : Text} {parts : List (Text × Text)}
    (h : E.delimiters.Grammatical s parts rest) :
    E.compile s = .ok ⟨parts.map fun p => ⟨p.1, Token.rejoin p.2.trim⟩, rest, E.delimiters⟩ := by
  rw [Engine.compile, Delimiters.segments_eq_tail_iff.mpr h, hE.compileSegments]

/-- **With its own markers the engine writes a template as the template does itself**, when there is
no expansion to follow. -/
theorem source_eq {t : Template} (hd : t.delimiters = E.delimiters)
    (hplain : ∀ k ∈ t.tokens, E.expansion? k.name = none) : E.source t = t.source := by
  have hchunk : ∀ c ∈ t.chunks, E.chunkSource c = Template.chunkSource t.delimiters c := by
    intro c hc
    have hnone : E.bodies.get? c.token.name = none :=
      Option.map_eq_none_iff.mp (hplain _ (List.mem_map_of_mem hc))
    rw [chunkSource, hnone, Template.chunkSource, hd]
  rw [source, Template.source, List.flatMap_congr hchunk]

theorem Direct.source (hE : E.Direct) {t : Template} (hd : t.delimiters = E.delimiters) :
    E.source t = t.source :=
  source_eq hd fun k _ => Option.map_eq_none_iff.mpr (get?_of_size_eq_zero hE.bodies k.name)

/-- **What comes back** of a template that stands out: its literal text, and its tokens reread. -/
theorem compile_source (hE : E.Direct) {t : Template} (hd : t.delimiters = E.delimiters)
    (hs : t.Stands) : E.compile t.source = .ok t.reread := by
  have hgram : E.delimiters.Grammatical t.source t.parts t.tail :=
    hd ▸ Delimiters.grammatical_source hs
  rw [hE.compile hgram, Template.parts, List.map_map, Template.reread, hd]
  rfl

/-- A text compiled with the standard markers gives a template that stands out, with joined
tokens. -/
theorem stands_of_compile (hE : E.Direct) (hd : E.delimiters = .standard) {s : Text} {t : Template}
    (h : E.compile s = .ok t) :
    t.delimiters = E.delimiters ∧ t.Stands ∧ ∀ k ∈ t.tokens, ∃ u, k = Token.rejoin u := by
  obtain ⟨parts, rest, hgram⟩ := exists_compile_iff.mp ⟨t, h⟩
  rw [hE.compile hgram] at h
  obtain rfl := Except.ok.inj h
  rw [hd] at hgram ⊢
  refine ⟨rfl, ⟨?_, hgram.literal⟩, ?_⟩
  · rw [List.forall_mem_map]
    intro p hp
    obtain ⟨s', after, hopens⟩ := hgram.cuts.exists_opens p hp
    exact Delimiters.stands_of_opens hopens
  · rw [Template.tokens, List.map_map, List.forall_mem_map]
    exact fun p _ => ⟨p.2.trim, rfl⟩

/-- **Compiling undoes writing.**  A template is written and compiled, and comes back as it was,
when its markers can be found where they were written and its tokens are tidy.  The markers are any
two texts that are not empty. -/
theorem compile_source_of_tidy (hE : E.Direct) {t : Template} (hd : t.delimiters = E.delimiters)
    (hs : t.Stands) (htidy : ∀ k ∈ t.tokens, k.Tidy) :
    E.compile t.source = .ok t ∧ E.compile (E.source t) = .ok t := by
  have hread : E.compile t.source = .ok t := by
    rw [compile_source hE hd hs, Template.reread_eq_iff.mpr htidy]
  exact ⟨hread, (hE.source hd).symm ▸ hread⟩

end Engine

namespace Sample

/-- Markers that hold the sign that stands before a filter. -/
def arrows : Engine :=
  { Engine.plain with delimiters := ⟨"<:".toList, ":>".toList, by decide, by decide⟩ }

/-- Literal text that ends in a part of the marker after it, tokens with filters, and parts of both
markers at the end. -/
def arrowed : Template :=
  ⟨[⟨"é<".toList, ⟨"name:upper".toList⟩⟩, ⟨[], ⟨"a b: hex".toList⟩⟩], ">:<".toList,
    arrows.delimiters⟩

theorem compile_source_arrowed :
    arrowed.source = "é<<:name:upper:><:a b: hex:>>:<".toList ∧
      arrows.compile arrowed.source = .ok arrowed ∧
      arrows.compile (arrows.source arrowed) = .ok arrowed := by
  have hsource : arrowed.source = "é<<:name:upper:><:a b: hex:>>:<".toList := by decide +kernel
  have hstands : arrowed.Stands := by
    refine ⟨?_, by decide +kernel⟩
    intro c hc
    simp only [arrowed, List.mem_cons, List.not_mem_nil, or_false] at hc
    rcases hc with rfl | rfl
    all_goals exact ⟨Text.cut?_eq_some_iff.mp (by decide +kernel),
      Text.cut?_eq_some_iff.mp (by decide +kernel), by decide +kernel⟩
  have htidy : ∀ k ∈ arrowed.tokens, k.Tidy := by
    intro k hk
    simp only [Template.tokens, arrowed, List.map_cons, List.map_nil, List.mem_cons,
      List.not_mem_nil, or_false] at hk
    rcases hk with rfl | rfl
    all_goals exact ⟨by decide +kernel, by decide +kernel⟩
  exact ⟨hsource, Engine.compile_source_of_tidy ⟨rfl, rfl⟩ rfl hstands htidy⟩

end Sample

namespace Engine

variable {E : Engine} {s : Text} {t : Template}

/-- **Which compiled templates come back.**  With the standard markers a text is compiled, written
and compiled again.  Everything but the tokens comes back, and a token is trimmed and joined again:
so the template comes back exactly when no token of it has a blank at an end.  A token has one when
only empty filters stand after the blank. -/
theorem compile_source_iff (hE : E.Direct) (hd : E.delimiters = .standard)
    (h : E.compile s = .ok t) :
    E.compile t.source = .ok t.reread ∧
      (E.compile t.source = .ok t ↔ ∀ k ∈ t.tokens, k.text.trim = k.text) := by
  obtain ⟨hdt, hs, hjoined⟩ := stands_of_compile hE hd h
  have hread : E.compile t.source = .ok t.reread := compile_source hE hdt hs
  refine ⟨hread, ?_⟩
  rw [hread, Except.ok.injEq, Template.reread_eq_iff]
  refine forall₂_congr fun k hk => ?_
  obtain ⟨u, rfl⟩ := hjoined k hk
  exact Token.tidy_rejoin_iff

end Engine

namespace Sample

/-- A blank before an empty filter. -/
def blankEnd : Text := "$\x7ba :\x7d".toList

/-- What `blankEnd` compiles to. -/
def blankEnded : Template := ⟨[⟨[], ⟨"a ".toList⟩⟩], [], .standard⟩

theorem compile_blankEnd : Engine.plain.compile blankEnd = .ok blankEnded := by decide +kernel

/-- The engine with nothing declared, as it is built. -/
theorem direct_plain : Engine.plain.Direct := by
  have hbuild : Engine.build .standard = .ok Engine.plain := rfl
  exact Engine.direct_of_build hbuild rfl rfl

theorem compile_source_iff_blankEnded : Engine.plain.Direct ∧
    Engine.plain.compile blankEnd = .ok blankEnded ∧
    Engine.plain.compile blankEnded.source = .ok ⟨[⟨[], ⟨"a".toList⟩⟩], [], .standard⟩ ∧
    (Engine.plain.compile blankEnded.source = .ok blankEnded ↔
      ∀ k ∈ blankEnded.tokens, k.text.trim = k.text) := by
  obtain ⟨hread, hiff⟩ := Engine.compile_source_iff direct_plain rfl compile_blankEnd
  have hreread : blankEnded.reread = ⟨[⟨[], ⟨"a".toList⟩⟩], [], .standard⟩ := by decide +kernel
  rw [hreread] at hread
  exact ⟨direct_plain, compile_blankEnd, hread, hiff⟩

/-- The blank is lost on the way back. -/
theorem compile_source_ne_blankEnded :
    Engine.build .standard = .ok Engine.plain ∧ Engine.plain.Direct ∧
      Engine.plain.delimiters = .standard ∧ Engine.plain.compile blankEnd = .ok blankEnded ∧
      Engine.plain.compile blankEnded.source ≠ .ok blankEnded :=
  ⟨rfl, direct_plain, rfl, compile_blankEnd, by decide +kernel⟩

end Sample
end Stencil
