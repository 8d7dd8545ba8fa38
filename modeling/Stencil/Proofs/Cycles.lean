/-
# Cycles among expansions

The text of an expansion refers to another expansion when one of its tokens names it, after one step
through the aliases.  Building an engine walks along these references depth first.  This file shows
that the walk fails exactly when the references run in a circle, and that the chain it reports is
such a circle.

* `IsCycle`: a walk that comes back to its first name and meets no other name twice.
* `Body.depth_lt_of_mem`: along a reference the linked bodies get less deep, so linked references do
  not run in a circle (`Linking.acyclic_of_linkAll`).
* `Linking.Trail`: what holds of the open path when a name is visited.  A visit that fails has met a
  name of its path again, and the path from there on is the circle (`Linking.isCycle_of_visit`).
* `Settings.Refers`: the references as they stand in the texts.
* `Engine.build_detects_cycles`: what building comes to.
-/
import Mathlib.Data.List.Chain
import Mathlib.Data.List.Nodup
import Mathlib.Logic.Relation
import Stencil.Proofs.ByteOrder
import Stencil.Proofs.Grammar

namespace Stencil

open Relation (TransGen)

/-! ## 1. Closed walks -/

/-- **A circle**: a walk along `R` from a name back to itself that meets no other name twice. -/
structure IsCycle (R : Text → Text → Prop) (chain : List Text) : Prop where
  two_le : 2 ≤ chain.length
  closed : chain.head? = chain.getLast?
  nodup : chain.dropLast.Nodup
  walk : chain.IsChain R

/-- Two names at the ends of a walk are linked. -/
theorem transGen_of_isChain {R : Text → Text → Prop} {b : Text} : ∀ {mid : List Text} {a : Text},
    (a :: (mid ++ [b])).IsChain R → TransGen R a b
  | [], a, h => by
    obtain ⟨hab, -⟩ := List.isChain_cons_cons.mp h
    exact .single hab
  | c :: mid, a, h => by
    obtain ⟨hac, hrest⟩ := List.isChain_cons_cons.mp h
    exact .head hac (transGen_of_isChain hrest)

theorem IsCycle.exists_transGen {R : Text → Text → Prop} {chain : List Text}
    (h : IsCycle R chain) : ∃ a, TransGen R a a := by
  obtain ⟨hlen, hclosed, -, hwalk⟩ := h
  match chain, hlen with
  | a :: c :: rest, _ =>
    obtain ⟨mid, b, hmid⟩ : ∃ mid b, c :: rest = mid ++ [b] :=
      ⟨(c :: rest).dropLast, (c :: rest).getLast (by simp), (List.dropLast_append_getLast _).symm⟩
    rw [hmid] at hclosed hwalk
    have hab : a = b := by
      rw [← List.cons_append, List.getLast?_concat] at hclosed
      exact Option.some.inj hclosed
    exact ⟨b, transGen_of_isChain (hab ▸ hwalk)⟩

/-- A circle is one along every wider relation. -/
theorem IsCycle.imp {R S : Text → Text → Prop} {chain : List Text} (hRS : ∀ a b, R a b → S a b)
    (h : IsCycle R chain) : IsCycle S chain :=
  ⟨h.two_le, h.closed, h.nodup, h.walk.imp hRS⟩

/-- The path from the last visit of `name` on, written forwards, is a circle when `name` comes
next. -/
theorem isCycle_chain {R : Text → Text → Prop} {path : List Text} {name : Text}
    (hnodup : path.Nodup) (hmem : name ∈ path)
    (hwalk : (name :: path).IsChain fun b a => R a b) : IsCycle R (Linking.chain path name) := by
  obtain ⟨recent, older, rfl, hnot⟩ := List.eq_append_cons_of_mem hmem
  have hother : ∀ a ∈ recent, (a != name) = true := by
    intro a ha
    exact bne_iff_ne.mpr fun he => hnot (he ▸ ha)
  have htake : (recent ++ name :: older).takeWhile (· != name) = recent := by
    rw [List.takeWhile_append_of_pos hother, List.takeWhile_cons_of_neg (by simp), List.append_nil]
  have hbackwards : (name :: (recent ++ [name])).IsChain fun b a => R a b :=
    hwalk.prefix ⟨older, by simp⟩
  rw [Linking.chain, htake]
  refine ⟨by simp, ?_, ?_, ?_⟩
  · rw [List.getLast?_concat]
    rfl
  · rw [List.dropLast_concat, List.nodup_cons, List.mem_reverse, List.nodup_reverse]
    exact ⟨hnot, (List.nodup_append.mp hnodup).1⟩
  · rw [← List.isChain_reverse] at hbackwards
    simpa using hbackwards

/-! ## 2. Depth -/

namespace Body

variable {bodies : Dict Body}

/-- **Along a reference bodies get less deep.** -/
theorem depth_lt_of_mem {b' : Body} : ∀ {b : Body}, b.Linked bodies → ∀ {c : Chunk}, c ∈ b.chunks →
    bodies.get? c.token.name = some b' → b'.depth < b.depth
  | .done _, _, c, hc, _ => by simp [chunks] at hc
  | .token lead t rest, ⟨ht, hrest⟩, c, hc, hb' => by
    rcases List.mem_cons.mp hc with rfl | hc
    · exact absurd (ht.symm.trans hb') (by simp)
    · have hlt := depth_lt_of_mem hrest hc hb'
      exact hlt
  | .expand lead t b rest, ⟨ht, hrest⟩, c, hc, hb' => by
    rw [depth]
    rcases List.mem_cons.mp hc with rfl | hc
    · obtain rfl := Option.some.inj (ht.symm.trans hb')
      omega
    · have := depth_lt_of_mem hrest hc hb'
      omega

/-- Below the depth of a body every depth is that of some stored body. -/
theorem exists_of_lt_depth
    (hlinked : ∀ ⦃name b⦄, bodies.get? name = some b → b.Linked bodies) {k : Nat} :
    ∀ {b : Body}, b.Linked bodies → k < b.depth →
      ∃ name b', bodies.get? name = some b' ∧ b'.depth = k
  | .done _, _, hk => by simp [depth] at hk
  | .token lead t rest, ⟨ht, hrest⟩, hk => exists_of_lt_depth hlinked hrest hk
  | .expand lead t b rest, ⟨ht, hrest⟩, hk => by
    rw [depth] at hk
    rcases Nat.lt_or_ge k rest.depth with hlt | hge
    · exact exists_of_lt_depth hlinked hrest hlt
    · rcases Nat.lt_or_ge k b.depth with hlt | hge'
      · exact exists_of_lt_depth hlinked (hlinked ht) hlt
      · exact ⟨t.name, b, ht, by omega⟩

/-- **Stored bodies are nested less deep than there are bodies**, because all smaller depths are
there as well. -/
theorem depth_lt_size
    (hlinked : ∀ ⦃name b⦄, bodies.get? name = some b → b.Linked bodies) {name : Text} {b : Body}
    (hb : bodies.get? name = some b) : b.depth < bodies.size := by
  have hsubset : List.range (b.depth + 1) ⊆ bodies.entries.map fun e => e.2.depth := by
    intro k hk
    have hstored : ∃ name b', bodies.get? name = some b' ∧ b'.depth = k := by
      rcases Nat.lt_succ_iff_lt_or_eq.mp (List.mem_range.mp hk) with hlt | rfl
      · exact exists_of_lt_depth hlinked (hlinked hb) hlt
      · exact ⟨name, b, hb, rfl⟩
    obtain ⟨n, b', hb', rfl⟩ := hstored
    exact List.mem_map.mpr ⟨(n, b'), Dict.get?_eq_some_iff.mp hb', rfl⟩
  have hlen := (List.subperm_of_subset List.nodup_range hsubset).length_le
  simp only [List.length_range, List.length_map] at hlen
  exact hlen

end Body

/-! ## 3. References between templates -/

namespace Linking

variable {defs : Dict Template} {path : List Text} {name : Text} {chain : List Text}

/-- The template of `a` has a token that names `b`, and `b` has a template, too. -/
def Refers (defs : Dict Template) (a b : Text) : Prop :=
  ∃ t, defs.get? a = some t ∧ (∃ token ∈ t.tokens, token.name = b) ∧ b ∈ defs.keys

/-- **References that were linked do not run in a circle**: the bodies on the way get less deep. -/
theorem acyclic_of_linkAll {bodies : Dict Body} (h : linkAll defs = .ok bodies) (a : Text) :
    ¬ TransGen (Refers defs) a a := by
  obtain ⟨hlinked, hsame⟩ := linkAll_spec h
  have hstep : ∀ {a b}, Refers defs a b → ∃ A B, bodies.get? a = some A ∧
      bodies.get? b = some B ∧ B.depth < A.depth := by
    rintro a b ⟨t, ht, ⟨token, htoken, rfl⟩, hb⟩
    obtain ⟨u, hu⟩ := Dict.mem_keys_iff.mp hb
    have ha := hsame a
    have hb := hsame token.name
    rw [ht, Option.map_some, Option.map_eq_some_iff] at ha
    rw [hu, Option.map_some, Option.map_eq_some_iff] at hb
    obtain ⟨A, hA, hAt⟩ := ha
    obtain ⟨B, hB, -⟩ := hb
    obtain ⟨c, hc, rfl⟩ := List.mem_map.mp htoken
    rw [← (Prod.mk.inj hAt).1] at hc
    exact ⟨A, B, hA, hB, Body.depth_lt_of_mem (hlinked hA) hc hB⟩
  have hpath : ∀ {b}, TransGen (Refers defs) a b → ∃ A B, bodies.get? a = some A ∧
      bodies.get? b = some B ∧ B.depth < A.depth := by
    intro b hab
    induction hab with
    | single hab => exact hstep hab
    | tail _ hbc ih =>
      obtain ⟨A, B, hA, hB, hlt⟩ := ih
      obtain ⟨B', C, hB', hC, hlt'⟩ := hstep hbc
      obtain rfl := Option.some.inj (hB.symm.trans hB')
      exact ⟨A, C, hA, hC, Nat.lt_trans hlt' hlt⟩
  intro hloop
  obtain ⟨A, B, hA, hB, hlt⟩ := hpath hloop
  obtain rfl := Option.some.inj (hA.symm.trans hB)
  exact Nat.lt_irrefl _ hlt

/-! ## 4. A visit that fails -/

/-- **The open path when `name` is visited**: it has no name twice, and each of its names refers to
the one that was opened after it, the last one to `name`. -/
structure Trail (defs : Dict Template) (path : List Text) (name : Text) : Prop where
  nodup : path.Nodup
  subset : path ⊆ defs.keys
  walk : name ∈ defs.keys → (name :: path).IsChain fun b a => Refers defs a b

/-- Opening `name` makes a trail for each name in its template. -/
theorem Trail.open_of_token {t : Template} {token : Token} (h : Trail defs path name)
    (hname : name ∉ path) (ht : defs.get? name = some t) (htoken : token ∈ t.tokens) :
    Trail defs (name :: path) token.name := by
  have hkey : name ∈ defs.keys := Dict.mem_keys_iff.mpr ⟨t, ht⟩
  refine ⟨List.nodup_cons.mpr ⟨hname, h.nodup⟩, List.cons_subset.mpr ⟨hkey, h.subset⟩, ?_⟩
  intro hnext
  exact List.isChain_cons_cons.mpr ⟨⟨t, ht, ⟨token, htoken, rfl⟩, hnext⟩, h.walk hkey⟩

/-- Linking chunks fails where the visit of one of their macros fails. -/
theorem exists_visit_of_linkChunks
    {v : Text → Dict Body → Except (List Text) (Option Body × Dict Body)} {tail : Text} :
    ∀ {cs : List Chunk} {done : Dict Body}, linkChunks v tail cs done = .error chain →
      ∃ c ∈ cs, ∃ done', v c.token.name done' = .error chain
  | [], done, h => by simp [linkChunks] at h
  | c :: cs, done, h => by
    simp only [linkChunks] at h
    split at h
    · next hvisit =>
      obtain rfl := Except.error.inj h
      exact ⟨c, List.mem_cons_self, done, hvisit⟩
    · next found done₁ hvisit =>
      split at h
      · next hrest =>
        rw [Except.error.inj h] at hrest
        obtain ⟨c', hc', hfail⟩ := exists_visit_of_linkChunks hrest
        exact ⟨c', List.mem_cons_of_mem _ hc', hfail⟩
      · split at h <;> contradiction

/-- **A visit that fails has found a circle.** -/
theorem isCycle_of_visit {room : Nat} {path : List Text} {name : Text} {done : Dict Body}
    (h : visit defs room path name done = .error chain) (htrail : Trail defs path name) :
    IsCycle (Refers defs) chain := by
  unfold visit at h
  split at h
  · contradiction
  · split at h
    · next hmem =>
      obtain rfl := Except.error.inj h
      exact isCycle_chain htrail.nodup hmem (htrail.walk (htrail.subset hmem))
    · next hnot =>
      split at h
      · contradiction
      · contradiction
      · next t room ht =>
        split at h
        · next hlink =>
          rw [Except.error.inj h] at hlink
          obtain ⟨c, hc, done', hfail⟩ := exists_visit_of_linkChunks hlink
          have htoken : c.token ∈ t.tokens := List.mem_map_of_mem hc
          exact isCycle_of_visit hfail (htrail.open_of_token hnot ht htoken)
        · contradiction

/-- Linking that fails has found a circle. -/
theorem isCycle_of_visitAll : ∀ {names : List Text} {done : Dict Body},
    visitAll defs names done = .error chain → IsCycle (Refers defs) chain
  | [], done, h => by simp [visitAll] at h
  | name :: names, done, h => by
    simp only [visitAll] at h
    split at h
    · next hvisit =>
      obtain rfl := Except.error.inj h
      exact isCycle_of_visit hvisit ⟨.nil, by simp, fun _ => .singleton name⟩
    · exact isCycle_of_visitAll h

theorem isCycle_of_linkAll (h : linkAll defs = .error chain) : IsCycle (Refers defs) chain :=
  isCycle_of_visitAll h

end Linking

/-! ## 5. References between texts -/

/-- **The text of `a` refers to `b`**: it holds a token whose macro, after one step through the
aliases, is the expansion `b`. -/
def Settings.Refers (s : Settings) (a b : Text) : Prop :=
  ∃ text parts rest lead body, s.expansions.texts.get? a = some text ∧
    s.delimiters.Grammatical text parts rest ∧ (lead, body) ∈ parts ∧
    s.aliases.resolve (Token.split body.trim).1 = b ∧ b ∈ s.expansions.texts.keys

namespace Engine

variable {s : Settings} {defs : Dict Template}

theorem tokens_pieces (t : Template) : Piece.tokens t.pieces = t.tokens := by
  have hchunks : ∀ cs : List Chunk,
      Piece.tokens (cs.flatMap Chunk.pieces ++ [.literal t.tail]) = cs.map Chunk.token := by
    intro cs
    induction cs with
    | nil => rfl
    | cons c cs ih => exact congrArg (c.token :: ·) ih
  exact hchunks t.chunks

/-- The tokens of a template that reads as a text are those of its parts, each resolved once. -/
theorem tokens_of_readsAs {E : Engine} {text : Text} {t : Template} (h : E.ReadsAs text t) :
    ∃ parts rest, E.delimiters.Grammatical text parts rest ∧
      t.tokens = parts.map fun p => E.resolveToken p.2 := by
  obtain ⟨parts, rest, hscan, hpieces⟩ := h
  refine ⟨parts, rest, Delimiters.segments_eq_tail_iff.mp hscan, ?_⟩
  rw [← tokens_pieces, hpieces]
  clear hscan hpieces
  induction parts with
  | nil => rfl
  | cons p parts ih => exact congrArg (E.resolveToken p.2 :: ·) ih

/-- Compiling all texts gives each expansion the template of its text, and nothing else one. -/
theorem get?_of_compileAll
    (h : (bare s).compileAll s.expansions.toList .empty = .ok defs) {name : Text} {t : Template} :
    defs.get? name = some t ↔
      ∃ text, s.expansions.texts.get? name = some text ∧ (bare s).compile text = .ok t := by
  obtain ⟨hin, hout⟩ := compileAll_spec s.expansions.texts.ascending h
  constructor
  · intro ht
    cases htext : s.expansions.texts.get? name with
    | none =>
      have hnot : ∀ text, (name, text) ∉ s.expansions.texts.entries := by
        intro text hmem
        rw [Dict.get?_eq_some_iff.mpr hmem] at htext
        contradiction
      rw [hout name hnot] at ht
      simp at ht
    | some text =>
      obtain ⟨t', ht', hget⟩ := hin name text (Dict.get?_eq_some_iff.mp htext)
      obtain rfl := Option.some.inj (ht.symm.trans hget)
      exact ⟨text, rfl, ht'⟩
  · rintro ⟨text, htext, hcompile⟩
    obtain ⟨t', ht', hget⟩ := hin name text (Dict.get?_eq_some_iff.mp htext)
    obtain rfl := Except.ok.inj (hcompile.symm.trans ht')
    exact hget

/-- **Compiled texts refer to each other as the texts do.** -/
theorem refers_iff_of_compileAll
    (h : (bare s).compileAll s.expansions.toList .empty = .ok defs) {a b : Text} :
    Linking.Refers defs a b ↔ s.Refers a b := by
  have hkeys : b ∈ defs.keys ↔ b ∈ s.expansions.texts.keys := by
    rw [Dict.mem_keys_iff, Dict.mem_keys_iff]
    constructor
    · rintro ⟨t, ht⟩
      obtain ⟨text, htext, -⟩ := (get?_of_compileAll h).mp ht
      exact ⟨text, htext⟩
    · rintro ⟨text, htext⟩
      obtain ⟨hin, -⟩ := compileAll_spec s.expansions.texts.ascending h
      obtain ⟨t, -, ht⟩ := hin b text (Dict.get?_eq_some_iff.mp htext)
      exact ⟨t, ht⟩
  constructor
  · rintro ⟨t, ht, ⟨token, htoken, hname⟩, hb⟩
    obtain ⟨text, htext, hcompile⟩ := (get?_of_compileAll h).mp ht
    obtain ⟨parts, rest, hread, htokens⟩ := tokens_of_readsAs (readsAs_of_bare_compile hcompile)
    rw [htokens] at htoken
    obtain ⟨⟨lead, body⟩, hpart, rfl⟩ := List.mem_map.mp htoken
    rw [name_resolveToken] at hname
    exact ⟨text, parts, rest, lead, body, htext, hread, hpart, hname, hkeys.mp hb⟩
  · rintro ⟨text, parts, rest, lead, body, htext, hread, hpart, hname, hb⟩
    obtain ⟨t, hcompile⟩ : ∃ t, (bare s).compile text = .ok t :=
      exists_compile_iff.mpr ⟨parts, rest, hread⟩
    obtain ⟨parts', rest', hread', htokens⟩ := tokens_of_readsAs (readsAs_of_bare_compile hcompile)
    obtain ⟨rfl, -⟩ := hread.cuts.unique hread.literal hread'.cuts hread'.literal
    have htoken : (bare s).resolveToken body ∈ t.tokens := by
      rw [htokens]
      exact List.mem_map.mpr ⟨(lead, body), hpart, rfl⟩
    have htarget : ((bare s).resolveToken body).name = b := by
      rw [name_resolveToken]
      exact hname
    exact ⟨t, (get?_of_compileAll h).mpr ⟨text, htext, hcompile⟩, ⟨_, htoken, htarget⟩,
      hkeys.mpr hb⟩

/-! ## 6. Building -/

/-- Compiling texts in turn fails at the first of them that does not compile. -/
theorem exists_first_of_compileAll {E : Engine} {err : BuildError} :
    ∀ {es : List (Text × Text)} {done : Dict Template},
      es.Pairwise (fun a b => a.1 < b.1) → E.compileAll es done = .error err →
        ∃ name text e, (name, text) ∈ es ∧ E.compile text = .error e ∧
          err = .expansion name e ∧
            ∀ name' text' e', (name', text') ∈ es → E.compile text' = .error e' →
              name' ≠ name → name < name'
  | [], done, _, h => by simp [compileAll] at h
  | (key, source) :: es, done, hasc, h => by
    obtain ⟨hhead, htail⟩ := List.pairwise_cons.mp hasc
    simp only [compileAll] at h
    split at h
    · next e he =>
      refine ⟨key, source, e, List.mem_cons_self, he, (Except.error.inj h).symm, ?_⟩
      intro name' text' e' hmem _ hne
      rcases List.mem_cons.mp hmem with hsame | hmem
      · exact absurd (Prod.mk.inj hsame).1 hne
      · exact hhead _ hmem
    · next t ht =>
      obtain ⟨name, text, e, hmem, he, herr, hleast⟩ := exists_first_of_compileAll htail h
      refine ⟨name, text, e, List.mem_cons_of_mem _ hmem, he, herr, ?_⟩
      intro name' text' e' hmem' he'
      rcases List.mem_cons.mp hmem' with hsame | hmem'
      · obtain ⟨rfl, rfl⟩ := Prod.mk.inj hsame
        exact absurd (ht.symm.trans he') (by simp)
      · exact hleast name' text' e' hmem' he'

theorem build_of_linkAll {bodies : Dict Body}
    (hall : (bare s).compileAll s.expansions.toList .empty = .ok defs)
    (hlink : Linking.linkAll defs = .ok bodies) : build s = .ok { bare s with bodies } := by
  simp only [build, hall, hlink]

theorem build_of_linkAll_error {chain : List Text}
    (hall : (bare s).compileAll s.expansions.toList .empty = .ok defs)
    (hlink : Linking.linkAll defs = .error chain) : build s = .error (.cycle chain) := by
  simp only [build, hall, hlink]

theorem build_of_compileAll_error {err : BuildError}
    (hall : (bare s).compileAll s.expansions.toList .empty = .error err) :
    build s = .error err := by
  simp only [build, hall]

/-- **A text that does not compile is reported**, the one of the least name. -/
theorem build_of_compile_error
    (h : ∃ name text e, s.expansions.texts.get? name = some text ∧
      (bare s).compile text = .error e) :
    ∃ name text e, s.expansions.texts.get? name = some text ∧
      (bare s).compile text = .error e ∧ build s = .error (.expansion name e) ∧
      ∀ name' text' e', s.expansions.texts.get? name' = some text' →
        (bare s).compile text' = .error e' → name' ≠ name → name < name' := by
  cases hall : (bare s).compileAll s.expansions.toList .empty with
  | ok defs =>
    obtain ⟨name, text, e, hget, he⟩ := h
    obtain ⟨hin, -⟩ := compileAll_spec s.expansions.texts.ascending hall
    obtain ⟨t, ht, -⟩ := hin name text (Dict.get?_eq_some_iff.mp hget)
    exact absurd (ht.symm.trans he) (by simp)
  | error err =>
    obtain ⟨name, text, e, hmem, he, herr, hleast⟩ :=
      exists_first_of_compileAll s.expansions.texts.ascending hall
    refine ⟨name, text, e, Dict.get?_eq_some_iff.mpr hmem, he, ?_, ?_⟩
    · rw [build_of_compileAll_error hall, herr]
    · intro name' text' e' hget' he'
      exact hleast name' text' e' (Dict.get?_eq_some_iff.mp hget') he'

/-- When all texts compile, they are linked. -/
theorem exists_compileAll
    (h : ∀ name text, s.expansions.texts.get? name = some text →
      ∃ t, (bare s).compile text = .ok t) :
    ∃ defs, (bare s).compileAll s.expansions.toList .empty = .ok defs := by
  cases hall : (bare s).compileAll s.expansions.toList .empty with
  | ok defs => exact ⟨defs, rfl⟩
  | error err =>
    obtain ⟨name, text, e, hmem, he, -⟩ :=
      exists_first_of_compileAll s.expansions.texts.ascending hall
    obtain ⟨t, ht⟩ := h name text (Dict.get?_eq_some_iff.mpr hmem)
    exact absurd (ht.symm.trans he) (by simp)

/-- **A circle that is reported is one.** -/
theorem isCycle_of_build {chain : List Text} (h : build s = .error (.cycle chain)) :
    IsCycle s.Refers chain := by
  unfold build at h
  split at h
  · next err hall =>
    obtain ⟨name, text, e, -, -, rfl, -⟩ :=
      exists_first_of_compileAll s.expansions.texts.ascending hall
    exact absurd (Except.error.inj h) (by simp)
  · next defs hall =>
    split at h
    · next chain' hlink =>
      obtain rfl := BuildError.cycle.inj (Except.error.inj h)
      have hcycle := Linking.isCycle_of_linkAll hlink
      exact hcycle.imp fun a b => (refers_iff_of_compileAll hall).mp
    · contradiction

/-- **Texts that compile are linked, or refer to each other in a circle**, and not both. -/
theorem build_of_compileAll {defs : Dict Template}
    (hall : (bare s).compileAll s.expansions.toList .empty = .ok defs) :
    ((∃ E, build s = .ok E) ∧ ∀ a, ¬ TransGen s.Refers a a) ∨
      ((∃ chain, build s = .error (.cycle chain)) ∧ ∃ a, TransGen s.Refers a a) := by
  have hsame : ∀ a b, s.Refers a b → Linking.Refers defs a b :=
    fun a b => (refers_iff_of_compileAll hall).mpr
  cases hlink : Linking.linkAll defs with
  | ok bodies =>
    refine .inl ⟨⟨_, build_of_linkAll hall hlink⟩, ?_⟩
    intro a hloop
    exact Linking.acyclic_of_linkAll hlink a (TransGen.mono hsame a a hloop)
  | error chain =>
    have hbuild : build s = .error (.cycle chain) := build_of_linkAll_error hall hlink
    exact .inr ⟨⟨chain, hbuild⟩, (isCycle_of_build hbuild).exists_transGen⟩

/-- **Building detects circles.**  When some text of an expansion does not compile, the least name
in byte order with such a text is reported.  When all of them compile, the build succeeds exactly
if the texts do not refer to each other in a circle, and reports a circle if they do.  A chain that
is reported has two names at least, its first and last are the same and the others are different
from each other, and each name refers to the next. -/
theorem build_detects_cycles (s : Settings) :
    ((∃ name text e, s.expansions.texts.get? name = some text ∧
        (bare s).compile text = .error e) →
      ∃ name text e, s.expansions.texts.get? name = some text ∧
        (bare s).compile text = .error e ∧ build s = .error (.expansion name e) ∧
        ∀ name' text' e', s.expansions.texts.get? name' = some text' →
          (bare s).compile text' = .error e' → name' ≠ name →
            Text.utf8 name < Text.utf8 name') ∧
      ((∀ name text, s.expansions.texts.get? name = some text →
          ∃ t, (bare s).compile text = .ok t) →
        ((∃ E, build s = .ok E) ↔ ∀ a, ¬ TransGen s.Refers a a) ∧
          ((∃ chain, build s = .error (.cycle chain)) ↔ ∃ a, TransGen s.Refers a a)) ∧
      ∀ chain, build s = .error (.cycle chain) → IsCycle s.Refers chain := by
  refine ⟨?_, ?_, fun chain => isCycle_of_build⟩
  · intro h
    obtain ⟨name, text, e, hget, he, hbuild, hleast⟩ := build_of_compile_error h
    refine ⟨name, text, e, hget, he, hbuild, ?_⟩
    intro name' text' e' hget' he' hne
    exact Text.utf8_lt_utf8_iff.mpr (hleast name' text' e' hget' he' hne)
  · intro h
    obtain ⟨defs, hall⟩ := exists_compileAll h
    rcases build_of_compileAll hall with ⟨⟨E, hE⟩, hacyclic⟩ | ⟨⟨chain, hchain⟩, a, hloop⟩
    · refine ⟨⟨fun _ => hacyclic, fun _ => ⟨E, hE⟩⟩, ?_, ?_⟩
      · rintro ⟨chain, hchain⟩
        exact absurd (hE.symm.trans hchain) (by simp)
      · rintro ⟨a, hloop⟩
        exact absurd hloop (hacyclic a)
    · refine ⟨⟨?_, fun hacyclic => absurd hloop (hacyclic a)⟩,
        fun _ => ⟨a, hloop⟩, fun _ => ⟨chain, hchain⟩⟩
      rintro ⟨E, hE⟩
      exact absurd (hE.symm.trans hchain) (by simp)

end Engine

namespace Sample

/-- Two expansions that refer to each other, once through an alias, and one that both could do
without. -/
def circle : Settings :=
  { Settings.standard with
    aliases := .ofList [("b".toList, ["B".toList])]
    expansions := .ofList [("b".toList, "$\x7ba:hex\x7d".toList), ("c".toList, "see".toList),
      ("a".toList, "$\x7bc\x7d, $\x7bB\x7d".toList)] }

/-- Two texts that do not compile. -/
def unclosed : Settings :=
  { Settings.standard with
    expansions := .ofList [("é".toList, "$\x7b".toList), ("z".toList, "at $\x7bz".toList),
      ("y".toList, "see".toList)] }

theorem build_detects_circle :
    (∀ name text, circle.expansions.texts.get? name = some text →
        ∃ t, (Engine.bare circle).compile text = .ok t) ∧
      Engine.build circle = .error (.cycle ["a".toList, "b".toList, "a".toList]) ∧
      IsCycle circle.Refers ["a".toList, "b".toList, "a".toList] ∧
      (∃ a, TransGen circle.Refers a a) ∧ (¬ ∃ E, Engine.build circle = .ok E) ∧
      (Engine.bare unclosed).compile "at $\x7bz".toList = .error ⟨"$\x7b".toList, 3⟩ ∧
      ∃ name text e, unclosed.expansions.texts.get? name = some text ∧
        (Engine.bare unclosed).compile text = .error e ∧
        Engine.build unclosed = .error (.expansion name e) ∧
        ∀ name' text' e', unclosed.expansions.texts.get? name' = some text' →
          (Engine.bare unclosed).compile text' = .error e' → name' ≠ name →
            Text.utf8 name < Text.utf8 name' := by
  have ha : (Engine.bare circle).compile "$\x7bc\x7d, $\x7bB\x7d".toList =
      .ok ⟨[⟨[], ⟨"c".toList⟩⟩, ⟨", ".toList, ⟨"b".toList⟩⟩], [], .standard⟩ := by decide +kernel
  have hb : (Engine.bare circle).compile "$\x7ba:hex\x7d".toList =
      .ok ⟨[⟨[], ⟨"a:hex".toList⟩⟩], [], .standard⟩ := by decide +kernel
  have hc : (Engine.bare circle).compile "see".toList = .ok ⟨[], "see".toList, .standard⟩ := by
    decide +kernel
  have hlist : circle.expansions.toList = [("a".toList, "$\x7bc\x7d, $\x7bB\x7d".toList),
      ("b".toList, "$\x7ba:hex\x7d".toList), ("c".toList, "see".toList)] := rfl
  have hcompiles : ∀ name text, circle.expansions.texts.get? name = some text →
      ∃ t, (Engine.bare circle).compile text = .ok t := by
    intro name text hget
    have hmem : (name, text) ∈ circle.expansions.toList := Dict.get?_eq_some_iff.mp hget
    simp only [hlist, List.mem_cons, Prod.mk.injEq, List.not_mem_nil, or_false] at hmem
    rcases hmem with ⟨-, rfl⟩ | ⟨-, rfl⟩ | ⟨-, rfl⟩
    · exact ⟨_, ha⟩
    · exact ⟨_, hb⟩
    · exact ⟨_, hc⟩
  have hbuild : Engine.build circle = .error (.cycle ["a".toList, "b".toList, "a".toList]) := by
    simp only [Engine.build, hlist, Engine.compileAll, ha, hb, hc]
    rfl
  have hz : (Engine.bare unclosed).compile "at $\x7bz".toList = .error ⟨"$\x7b".toList, 3⟩ := by
    decide +kernel
  obtain ⟨-, hverdict, hcycle⟩ := Engine.build_detects_cycles circle
  obtain ⟨hok, hchain⟩ := hverdict hcompiles
  have hloop := hchain.mp ⟨_, hbuild⟩
  refine ⟨hcompiles, hbuild, hcycle _ hbuild, hloop, ?_, hz, ?_⟩
  · intro hE
    obtain ⟨a, ha⟩ := hloop
    exact hok.mp hE a ha
  · exact (Engine.build_detects_cycles unclosed).1 ⟨"z".toList, _, _, rfl, hz⟩

end Sample
end Stencil
