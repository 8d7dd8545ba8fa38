/-
# What a render reads of its bindings

A render looks its macros up in one list of bindings, also inside the templates that it finds there.
Of this list it reads the first bindings of some macros only: those that it asks for, and those that
the templates bound to such macros ask for.

* `Engine.pieces`, `Engine.textPieces`: a template and a text with their expansions in place.  They
  mean what the template means, and what the text means up to its fault (`Meaning.chunks_eq_pieces`,
  `Meaning.exists_inline_eq`).
* `Engine.asked`: the macros of pieces that are looked up.  No token of a template or a text with
  its expansions in place names an expansion (`Engine.expansion?_of_mem_pieces`,
  `Engine.expansion?_of_mem_textPieces`), and what all stored tokens have they have, too
  (`Engine.of_mem_pieces`, `Engine.of_mem_partPieces`).
* `Engine.Reaches`: the least set of macros that holds what is asked for and is closed under bound
  templates.
* `Meaning.bound_congr`: bound templates mean the same in two lists that agree on this set.
* `Engine.render_reads_reached`: so do templates and texts.
-/
import Stencil.Proofs.Inline

namespace Stencil

/-! ## 1. First bindings -/

section Lookup

variable {m n : Text} {v : Value} {xs ys vs ws : Bindings}

theorem lookup?_append : ∀ xs : Bindings,
    lookup? m (xs ++ ys) = (lookup? m xs).or (lookup? m ys)
  | [] => rfl
  | (n, v) :: xs => by
    rw [List.cons_append, lookup?, lookup?, lookup?_append xs]
    split <;> rfl

/-- A macro does not see what is bound to another. -/
theorem lookup?_insert_of_ne (h : n ≠ m) : lookup? m (xs ++ (n, v) :: ys) = lookup? m (xs ++ ys) := by
  rw [lookup?_append, lookup?_append, lookup?, if_neg h]

/-- No macro sees what is bound to a macro that is bound before. -/
theorem lookup?_insert_of_bound (h : lookup? n xs ≠ none) (m : Text) :
    lookup? m (xs ++ (n, v) :: ys) = lookup? m (xs ++ ys) := by
  by_cases hm : n = m
  · subst hm
    obtain ⟨u, hu⟩ := Option.ne_none_iff_exists'.mp h
    rw [lookup?_append, lookup?_append, hu, Option.some_or, Option.some_or]
  · exact lookup?_insert_of_ne hm

/-- What a macro sees is the first of its own bindings. -/
theorem lookup?_eq_head? (m : Text) : ∀ vs : Bindings,
    lookup? m vs = (vs.filter fun b => b.1 = m).head?.map Prod.snd
  | [] => rfl
  | (n, v) :: vs => by
    by_cases h : n = m
    · rw [lookup?, if_pos h, List.filter_cons_of_pos (by simpa using h)]
      rfl
    · rw [lookup?, if_neg h, List.filter_cons_of_neg (by simpa using h), lookup?_eq_head? m vs]

end Lookup

/-! ## 2. Templates and texts with their expansions in place -/

theorem Piece.mem_tokens {ps : List Piece} {k : Token} : k ∈ tokens ps ↔ .token k ∈ ps := by
  induction ps with
  | nil => simp [tokens]
  | cons p ps ih => cases p <;> simp [tokens, ih]

/-- The parts of a text that is cut, up to its fault when it has one. -/
def Segments.parts : Segments → List (Text × Text)
  | .tail _ => []
  | .unmatched _ => []
  | .token lead body rest => (lead, body) :: rest.parts

theorem Segments.parts_after (last : Segments) : ∀ parts : List (Text × Text),
    (Segments.after parts last).parts = parts ++ last.parts
  | [] => rfl
  | p :: parts => congrArg (p :: ·) (parts_after last parts)

namespace Engine

variable (E : Engine)

/-- The pieces of a template, with what each of its tokens leaves in the token's place. -/
def pieces (t : Template) : List Piece :=
  t.chunks.flatMap (fun c => .literal c.lead :: E.spliced c.token) ++ [.literal t.tail]

/-- The pieces of a text, up to its fault when it has one. -/
def textPieces (s : Text) : List Piece := E.partPieces (E.delimiters.segments 0 s).parts

/-- The macros of pieces that are looked up: all but those on the skip list. -/
def asked (ps : List Piece) : List Text :=
  ((Piece.tokens ps).map Token.name).filter fun name => !E.skip.contains name

variable {E}

theorem mem_asked {ps : List Piece} {name : Text} :
    name ∈ E.asked ps ↔ (∃ k, .token k ∈ ps ∧ k.name = name) ∧ E.skip.contains name = false := by
  simp [asked, Piece.mem_tokens]

/-- What some pieces ask for is asked for with a piece in front of them, too. -/
theorem mem_asked_cons {p : Piece} {ps : List Piece} {name : Text} (h : name ∈ E.asked ps) :
    name ∈ E.asked (p :: ps) := by
  obtain ⟨⟨k, hk, hname⟩, hskip⟩ := mem_asked.mp h
  exact mem_asked.mpr ⟨⟨k, List.mem_cons_of_mem _ hk, hname⟩, hskip⟩

/-- A token asks for its own macro, when that is not on the skip list. -/
theorem mem_asked_token {k : Token} {ps : List Piece} (h : E.skip.contains k.name = false) :
    k.name ∈ E.asked (.token k :: ps) :=
  mem_asked.mpr ⟨⟨k, List.mem_cons_self, rfl⟩, h⟩

end Engine

/-- No token of a linked body names an expansion once all references are followed. -/
theorem Body.get?_of_mem_pieces {bodies : Dict Body}
    (hlinked : ∀ ⦃name b⦄, bodies.get? name = some b → b.Linked bodies) {k : Token} :
    ∀ {b : Body}, b.Linked bodies → .token k ∈ b.pieces → bodies.get? k.name = none
  | .done _, _, hk => by simp [pieces] at hk
  | .token _ t rest, ⟨ht, hrest⟩, hk => by
    have hk : k = t ∨ .token k ∈ rest.pieces := by simpa [pieces] using hk
    rcases hk with rfl | hk
    · exact ht
    · exact get?_of_mem_pieces hlinked hrest hk
  | .expand _ t b rest, ⟨ht, hrest⟩, hk => by
    have hk : .token k ∈ b.pieces ∨ .token k ∈ rest.pieces := by simpa [pieces] using hk
    rcases hk with hk | hk
    · exact get?_of_mem_pieces hlinked (hlinked ht) hk
    · exact get?_of_mem_pieces hlinked hrest hk

/-- **What all stored tokens have, spliced tokens have.**  A property that the tokens of a linked body
have, and those of all stored bodies, is left to the tokens of its pieces. -/
theorem Body.of_mem_pieces {bodies : Dict Body} {P : Token → Prop}
    (hlinked : ∀ ⦃name b⦄, bodies.get? name = some b → b.Linked bodies)
    (hstored : ∀ ⦃name b⦄, bodies.get? name = some b → ∀ c ∈ b.chunks, P c.token) {k : Token} :
    ∀ {b : Body}, b.Linked bodies → (∀ c ∈ b.chunks, P c.token) → .token k ∈ b.pieces → P k
  | .done _, _, _, hk => by simp [pieces] at hk
  | .token lead t rest, ⟨_, hrest⟩, hP, hk => by
    have hk : k = t ∨ .token k ∈ rest.pieces := by simpa [pieces] using hk
    rcases hk with rfl | hk
    · exact hP ⟨lead, k⟩ List.mem_cons_self
    · exact of_mem_pieces hlinked hstored hrest (fun c hc => hP c (List.mem_cons_of_mem _ hc)) hk
  | .expand _ t b rest, ⟨ht, hrest⟩, hP, hk => by
    have hk : .token k ∈ b.pieces ∨ .token k ∈ rest.pieces := by simpa [pieces] using hk
    rcases hk with hk | hk
    · exact of_mem_pieces hlinked hstored (hlinked ht) (hstored ht) hk
    · exact of_mem_pieces hlinked hstored hrest (fun c hc => hP c (List.mem_cons_of_mem _ hc)) hk

namespace Engine

variable {E : Engine}

section Stored

variable {P : Token → Prop} (hE : E.Linked)
  (hstored : ∀ ⦃name b⦄, E.bodies.get? name = some b → ∀ c ∈ b.chunks, P c.token) {k : Token}

include hE hstored

/-- What a token has, and all stored ones, is left to the tokens that stand in its place. -/
theorem of_mem_spliced {k' : Token} (hk : P k) (h : .token k' ∈ E.spliced k) : P k' := by
  cases hb : E.bodies.get? k.name with
  | none =>
    rw [spliced, hb] at h
    obtain rfl : k' = k := by simpa using h
    exact hk
  | some b =>
    rw [spliced, hb] at h
    exact Body.of_mem_pieces hE hstored (hE hb) (hstored hb) h

theorem of_mem_pieces {t : Template} (ht : ∀ k ∈ t.tokens, P k) (h : .token k ∈ E.pieces t) :
    P k := by
  obtain ⟨c, hc, hk⟩ : ∃ c ∈ t.chunks, .token k ∈ E.spliced c.token := by simpa [pieces] using h
  exact of_mem_spliced hE hstored (ht _ (List.mem_map_of_mem hc)) hk

theorem of_mem_partPieces {parts : List (Text × Text)}
    (hparts : ∀ p ∈ parts, P (E.resolveToken p.2)) (h : .token k ∈ E.partPieces parts) : P k := by
  obtain ⟨p, hp, hk⟩ := List.mem_flatMap.mp h
  have hk : .token k ∈ E.spliced (E.resolveToken p.2) := by simpa using hk
  exact of_mem_spliced hE hstored (hparts p hp) hk

end Stored

/-- No token that is left in the place of another names an expansion. -/
theorem expansion?_of_mem_spliced (hE : E.Linked) {k k' : Token}
    (h : .token k' ∈ E.spliced k) : E.expansion? k'.name = none := by
  refine Option.map_eq_none_iff.mpr ?_
  cases hb : E.bodies.get? k.name with
  | none =>
    rw [spliced, hb] at h
    obtain rfl : k' = k := by simpa using h
    exact hb
  | some b =>
    rw [spliced, hb] at h
    exact Body.get?_of_mem_pieces hE (hE hb) h

theorem expansion?_of_mem_pieces (hE : E.Linked) {t : Template} {k : Token}
    (h : .token k ∈ E.pieces t) : E.expansion? k.name = none := by
  obtain ⟨c, -, hk⟩ : ∃ c ∈ t.chunks, .token k ∈ E.spliced c.token := by simpa [pieces] using h
  exact expansion?_of_mem_spliced hE hk

theorem expansion?_of_mem_textPieces (hE : E.Linked) {s : Text} {k : Token}
    (h : .token k ∈ E.textPieces s) : E.expansion? k.name = none := by
  obtain ⟨p, -, hk⟩ := List.mem_flatMap.mp h
  have hk : .token k ∈ E.spliced (E.resolveToken p.2) := by simpa using hk
  exact expansion?_of_mem_spliced hE hk

end Engine

namespace Meaning

variable {E : Engine} {vs : Bindings} {nested : Text → Template → Writing}

/-- **A template means what its pieces mean.** -/
theorem chunks_eq_pieces (t : Template) :
    chunks E vs nested t.tail t.chunks = pieces E vs nested (E.pieces t) := by
  rw [Engine.pieces]
  induction t.chunks with
  | nil => exact (pieces_literal _).symm
  | cons c cs ih =>
    rw [chunks, ih, ← pieces_spliced, ← pieces_append, List.flatMap_cons,
      List.append_assoc, List.cons_append, pieces]

/-- **A text means what its pieces mean**, and then how it ends: with literal text, or with its
fault.  The end depends on the markers only, neither on bindings nor on the rest of the engine. -/
theorem exists_inline_eq (d : Delimiters) (s : Text) : ∃ last : Writing,
    ((∃ rest, last = text rest) ∨ ∃ e, last = fail (.error (.parse e))) ∧
      ∀ (E : Engine) vs, E.delimiters = d →
        inline E vs s = seq (pieces E vs (bound E vs maxDepth) (E.textPieces s)) last := by
  obtain ⟨parts, ⟨rest, hscan⟩ | ⟨position, hscan⟩⟩ := (d.segments 0 s).exists_parts
  · refine ⟨text rest, .inl ⟨rest, rfl⟩, fun E vs hd => ?_⟩
    rw [inline, Engine.textPieces, hd, hscan, segments_after, Segments.parts_after,
      Segments.parts, List.append_nil, segments]
  · refine ⟨fail (.error (.parse ⟨d.start, position⟩)), .inr ⟨_, rfl⟩, fun E vs hd => ?_⟩
    rw [inline, Engine.textPieces, hd, hscan, segments_after, Segments.parts_after,
      Segments.parts, List.append_nil, segments, hd]

end Meaning

/-! ## 3. Macros that are reached -/

/-- **The macros that pieces reach**: those that they ask for, and those that a template asks for
that is bound to a macro they reach. -/
inductive Engine.Reaches (E : Engine) (vs : Bindings) (ps : List Piece) : Text → Prop
  | asked {n : Text} (hn : n ∈ E.asked ps) : Reaches E vs ps n
  | through {m n : Text} {u : Template} (hm : Reaches E vs ps m)
      (hu : lookup? m vs = some (.template u)) (hn : n ∈ E.asked (E.pieces u)) : Reaches E vs ps n

namespace Meaning

variable {E : Engine} {vs ws : Bindings} {nested nested' : Text → Template → Writing}

/-- A macro with the same first binding in two lists means the same in both, when a template that is
bound to it does. -/
theorem binding_congr {m : Text} (h : lookup? m vs = lookup? m ws)
    (hnested : ∀ u, lookup? m vs = some (.template u) → nested m u = nested' m u) :
    binding E vs nested m = binding E ws nested' m := by
  rw [binding, binding, ← h]
  cases hv : lookup? m vs with
  | none => cases E.fallback <;> rfl
  | some v =>
    cases v with
    | template u => exact hnested u hv
    | _ => rfl

/-- Pieces mean the same when the macros that they ask for do. -/
theorem pieces_congr : ∀ {ps : List Piece},
    (∀ m ∈ E.asked ps, binding E vs nested m = binding E ws nested' m) →
      pieces E vs nested ps = pieces E ws nested' ps
  | [], _ => rfl
  | .literal s :: ps, h => by
    rw [pieces, pieces, pieces_congr fun m hm => h m (Engine.mem_asked_cons hm)]
  | .token k :: ps, h => by
    have hleaf : leaf E vs nested k.name k.suffix = leaf E ws nested' k.name k.suffix := by
      rw [leaf, leaf]
      cases hskip : E.skip.contains k.name with
      | true => rfl
      | false =>
        rw [h k.name (Engine.mem_asked_token hskip)]
    rw [pieces, pieces, hleaf, pieces_congr fun m hm => h m (Engine.mem_asked_cons hm)]

/-- **Bound templates mean the same** in two lists that agree on what is reached.  The induction is
on the levels left: what a bound template asks for is reached through its macro. -/
theorem bound_congr {ps : List Piece}
    (h : ∀ m, E.Reaches vs ps m → lookup? m vs = lookup? m ws) :
    ∀ (left : Nat) {m : Text} {u : Template}, E.Reaches vs ps m →
      lookup? m vs = some (.template u) → bound E vs left m u = bound E ws left m u
  | 0, _, _, _, _ => rfl
  | left + 1, m, u, hm, hu => by
    rw [bound, bound, chunks_eq_pieces, chunks_eq_pieces]
    refine pieces_congr fun n hn => ?_
    have hreach : E.Reaches vs ps n := .through hm hu hn
    exact binding_congr (h n hreach) fun u' hu' => bound_congr h left hreach hu'

/-- Pieces mean the same in two lists that agree on what they reach. -/
theorem pieces_bound_congr {ps : List Piece}
    (h : ∀ m, E.Reaches vs ps m → lookup? m vs = lookup? m ws) :
    pieces E vs (bound E vs maxDepth) ps = pieces E ws (bound E ws maxDepth) ps := by
  refine pieces_congr fun m hm => ?_
  exact binding_congr (h m (.asked hm)) fun u hu => bound_congr h maxDepth (.asked hm) hu

end Meaning

/-! ## 4. Calls -/

namespace Engine

variable {E : Engine} {vs ws : Bindings}

/-- No call tells two lists of bindings apart. -/
structure Indistinct (E : Engine) (vs ws : Bindings) : Prop where
  render : ∀ out t, E.render out t vs = E.render out t ws
  replace : ∀ out s, E.replace out s vs = E.replace out s ws

/-- A template renders the same with two lists that agree on what it reaches. -/
theorem render_congr {t : Template}
    (h : ∀ m, E.Reaches vs (E.pieces t) m → lookup? m vs = lookup? m ws) (out : Bytes) :
    E.render out t vs = E.render out t ws := by
  rw [render_eq, render_eq, Meaning.template, Meaning.template, Meaning.chunks_eq_pieces,
    Meaning.chunks_eq_pieces, Meaning.pieces_bound_congr h]

/-- A text renders the same with two lists that agree on what it reaches. -/
theorem replace_congr {s : Text}
    (h : ∀ m, E.Reaches vs (E.textPieces s) m → lookup? m vs = lookup? m ws) (out : Bytes) :
    E.replace out s vs = E.replace out s ws := by
  obtain ⟨last, -, hlast⟩ := Meaning.exists_inline_eq E.delimiters s
  rw [replace_eq, replace_eq, hlast E vs rfl, hlast E ws rfl, Meaning.pieces_bound_congr h]

/-- Lists with the same first bindings are not told apart. -/
theorem indistinct_of_lookup? (h : ∀ m, lookup? m vs = lookup? m ws) : E.Indistinct vs ws :=
  ⟨fun out _ => render_congr (fun m _ => h m) out, fun out _ => replace_congr (fun m _ => h m) out⟩

/-- A macro that is reached is neither echoed nor an expansion. -/
theorem Reaches.looked_up {ps : List Piece}
    (hps : ∀ k, .token k ∈ ps → E.expansion? k.name = none) (hE : E.Linked) {m : Text}
    (h : E.Reaches vs ps m) : E.skip.contains m = false ∧ E.expansion? m = none := by
  cases h with
  | asked hn =>
    obtain ⟨⟨k, hk, rfl⟩, hskip⟩ := mem_asked.mp hn
    exact ⟨hskip, hps k hk⟩
  | through _ _ hn =>
    obtain ⟨⟨k, hk, rfl⟩, hskip⟩ := mem_asked.mp hn
    exact ⟨hskip, expansion?_of_mem_pieces hE hk⟩

/-- What is bound to an echoed macro or to an expansion is not looked at. -/
theorem indistinct_insert (hE : E.Linked) {n : Text}
    (hn : E.skip.contains n = true ∨ E.expansion? n ≠ none) (xs ys : Bindings) (v : Value) :
    E.Indistinct (xs ++ (n, v) :: ys) (xs ++ ys) := by
  have hagree {ps : List Piece} (hps : ∀ k, .token k ∈ ps → E.expansion? k.name = none) (m : Text)
      (hm : E.Reaches (xs ++ (n, v) :: ys) ps m) :
      lookup? m (xs ++ (n, v) :: ys) = lookup? m (xs ++ ys) := by
    obtain ⟨hskip, hnone⟩ := hm.looked_up hps hE
    refine lookup?_insert_of_ne ?_
    rintro rfl
    rcases hn with hn | hn
    · rw [hn] at hskip
      contradiction
    · exact hn hnone
  exact ⟨fun out t => render_congr (hagree fun _ => expansion?_of_mem_pieces hE) out,
    fun out s => replace_congr (hagree fun _ => expansion?_of_mem_textPieces hE) out⟩

/-- **A render reads the first bindings of the macros that it reaches, and nothing else of its
bindings.**  It gives the same result and leaves the same bytes with any two lists that agree there.
So no call sees a binding of a macro that is bound before, nor how the bindings of different macros
are mixed, nor any binding of a macro that is echoed or of an expansion. -/
theorem render_reads_reached (hE : E.Built) :
    (∀ vs ws t, (∀ m, E.Reaches vs (E.pieces t) m → lookup? m vs = lookup? m ws) →
        ∀ out, E.render out t vs = E.render out t ws) ∧
      (∀ vs ws s, (∀ m, E.Reaches vs (E.textPieces s) m → lookup? m vs = lookup? m ws) →
        ∀ out, E.replace out s vs = E.replace out s ws) ∧
      (∀ xs ys n v, lookup? n xs ≠ none → E.Indistinct (xs ++ (n, v) :: ys) (xs ++ ys)) ∧
      (∀ vs ws : Bindings, (∀ m, (vs.filter fun b => b.1 = m) = ws.filter fun b => b.1 = m) →
        E.Indistinct vs ws) ∧
      ∀ xs ys n v, E.skip.contains n = true ∨ E.expansion? n ≠ none →
        E.Indistinct (xs ++ (n, v) :: ys) (xs ++ ys) := by
  refine ⟨fun _ _ _ => render_congr, fun _ _ _ => replace_congr, ?_, ?_, ?_⟩
  · intro xs ys n v hbound
    exact indistinct_of_lookup? (lookup?_insert_of_bound hbound)
  · intro vs ws hfilter
    refine indistinct_of_lookup? fun m => ?_
    rw [lookup?_eq_head?, lookup?_eq_head?, hfilter m]
  · intro xs ys n v hn
    exact indistinct_insert hE.linked hn xs ys v

end Engine

namespace Sample

/-- A template to be bound, with a macro that is looked up and one that is echoed. -/
def about : Template :=
  ⟨[⟨"<".toList, ⟨"name".toList⟩⟩, ⟨"|".toList, ⟨"secret".toList⟩⟩], ">".toList, .standard⟩

/-- A template that names an expansion and a macro for a bound template. -/
def card : Template :=
  ⟨[⟨[], ⟨"letter".toList⟩⟩, ⟨" ".toList, ⟨"about:upper".toList⟩⟩], [], .standard⟩

/-- What `card` reaches, among bindings that are not read. -/
def crowded : Bindings :=
  [("letter".toList, .string "unread".toList), ("about".toList, .template about),
    ("secret".toList, .string "unread".toList), ("name".toList, .string "Ann".toList),
    ("name".toList, .template about), ("about".toList, .none)]

/-- What `card` reaches, in another order. -/
def sparse : Bindings :=
  [("name".toList, .string "Ann".toList), ("about".toList, .template about)]

/-- `card` reaches the macro that it names and the one that the bound template names. -/
theorem reaches_card {m : Text} (h : engine.Reaches crowded (engine.pieces card) m) :
    m = "name".toList ∨ m = "about".toList := by
  have hcard : ∀ n ∈ engine.asked (engine.pieces card), n = "name".toList ∨ n = "about".toList := by
    decide +kernel
  have habout : ∀ n ∈ engine.asked (engine.pieces about), n = "name".toList := by decide +kernel
  induction h with
  | asked hn => exact hcard _ hn
  | through _ hu hn ih =>
    rcases ih with rfl | rfl
    · have hname : lookup? "name".toList crowded = some (.string "Ann".toList) := rfl
      exact absurd (Option.some.inj (hname.symm.trans hu)) (by simp)
    · have hbound : lookup? "about".toList crowded = some (.template about) := rfl
      rw [hbound] at hu
      obtain rfl := Value.template.inj (Option.some.inj hu)
      exact .inl (habout _ hn)

theorem render_reads_reached_card :
    (∀ out, engine.render out card crowded = engine.render out card sparse) ∧
      engine.render [0x2D] card crowded =
        (.ok (), Text.utf8 "-Hello, ANN! $\x7bsecret\x7d <ANN|$\x7bSECRET\x7d>".toList) ∧
      (∀ out, engine.replace out circular (("letter".toList, .none) :: bindings) =
        engine.replace out circular bindings) := by
  obtain ⟨hrender, -, -, -, hunread⟩ := Engine.render_reads_reached built_engine
  have hagree : ∀ m, engine.Reaches crowded (engine.pieces card) m →
      lookup? m crowded = lookup? m sparse := by
    intro m hm
    rcases reaches_card hm with rfl | rfl <;> rfl
  have hletter : engine.expansion? "letter".toList ≠ none := by decide +kernel
  refine ⟨hrender _ _ _ hagree, ?_, fun out => ?_⟩
  · rw [hrender _ _ _ hagree, Engine.render_eq]
    decide +kernel
  · exact (hunread [] bindings "letter".toList .none (.inr hletter)).replace out circular

end Sample
end Stencil
