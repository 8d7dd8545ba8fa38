/-
# How deep bound templates nest

A template can be bound to a macro, and it can name macros with templates bound to them in turn, so
that rendering goes down a chain of bound templates.  It goes down `maxDepth` levels and no further.

* `Engine.Chain`: macros with templates bound to them, each asked for by the template of the one
  before.  `Engine.chain_pieces_iff`: expansions lie between the links of a chain and add none.
* `Engine.Stops`: the failure that rendering meets on its way down a chain.
* `Meaning.exists_stop`: a chain that is longer than the levels left is not rendered.
* `Meaning.chain_of_depth`: where rendering fails at the limit, a chain is longer by one.
* `Engine.exists_chain_of_circle`: bindings that run in a circle have chains of all lengths.
* `Engine.depth_limit_exact`: all of it, for render calls.
-/
import Mathlib.Logic.Relation
import Stencil.Proofs.Independence

namespace Stencil

open Relation

/-! ## 1. Chains of bound templates -/

namespace Engine

/-- **A chain of bound templates** that pieces start: the pieces ask for its first macro, a template
is bound to that macro, and the pieces of this template start the rest. -/
inductive Chain (E : Engine) (vs : Bindings) : List Piece → List Text → Prop
  | nil {ps : List Piece} : Chain E vs ps []
  | cons {ps : List Piece} {m : Text} {u : Template} {ms : List Text} (hm : m ∈ E.asked ps)
      (hu : lookup? m vs = some (.template u)) (hms : Chain E vs (E.pieces u) ms) :
      Chain E vs ps (m :: ms)

/-- A template is bound to `m`, and it asks for `n`. -/
def Leads (E : Engine) (vs : Bindings) (m n : Text) : Prop :=
  ∃ u, lookup? m vs = some (.template u) ∧ n ∈ E.asked (E.pieces u)

variable {E : Engine} {vs : Bindings} {ps : List Piece} {m n : Text} {ms : List Text}

/-- A macro that is asked for stands in the pieces, as a token that is not echoed. -/
theorem exists_split_of_asked (h : m ∈ E.asked ps) : ∃ before k after,
    ps = before ++ .token k :: after ∧ k.name = m ∧ E.skip.contains m = false := by
  obtain ⟨⟨k, hk, hname⟩, hskip⟩ := mem_asked.mp h
  obtain ⟨before, after, hsplit⟩ := List.append_of_mem hk
  exact ⟨before, k, after, hsplit, hname, hskip⟩

/-- A template asks for what its tokens ask for. -/
theorem mem_asked_pieces_iff {t : Template} :
    m ∈ E.asked (E.pieces t) ↔ ∃ c ∈ t.chunks, m ∈ E.asked (E.spliced c.token) := by
  have hmem (k : Token) :
      .token k ∈ E.pieces t ↔ ∃ c ∈ t.chunks, .token k ∈ E.spliced c.token := by
    simp [pieces]
  simp only [mem_asked, hmem]
  constructor
  · rintro ⟨⟨k, ⟨c, hc, hk⟩, hname⟩, hskip⟩
    exact ⟨c, hc, ⟨k, hk, hname⟩, hskip⟩
  · rintro ⟨c, hc, ⟨k, hk, hname⟩, hskip⟩
    exact ⟨⟨k, ⟨c, hc, hk⟩, hname⟩, hskip⟩

/-- How a chain goes on depends on its first macro, and not on who asks for it. -/
theorem chain_cons_iff : E.Chain vs ps (m :: ms) ↔
    m ∈ E.asked ps ∧ ∃ u, lookup? m vs = some (.template u) ∧ E.Chain vs (E.pieces u) ms := by
  constructor
  · intro h
    cases h with
    | cons hm hu hms => exact ⟨hm, _, hu, hms⟩
  · rintro ⟨hm, u, hu, hms⟩
    exact .cons hm hu hms

/-- **Expansions add no link.**  The chains of a template are the chains of its tokens, and the
chains of an expansion are those of the template that was written for it. -/
theorem chain_pieces_iff (hE : E.Linked) {t : Template} :
    E.Chain vs (E.pieces t) (m :: ms) ↔ ∃ c ∈ t.chunks, E.Chain vs
      (match E.expansion? c.token.name with
        | some d => E.pieces d
        | none => [.token c.token]) (m :: ms) := by
  have hspliced (k : Token) : (match E.expansion? k.name with
      | some d => E.pieces d
      | none => [.token k]) = E.spliced k := by
    rw [spliced_eq hE]
    cases E.expansion? k.name <;> rfl
  simp only [hspliced, chain_cons_iff, mem_asked_pieces_iff]
  constructor
  · rintro ⟨⟨c, hc, hm⟩, hrest⟩
    exact ⟨c, hc, hm, hrest⟩
  · rintro ⟨c, hc, hm, hrest⟩
    exact ⟨⟨c, hc, hm⟩, hrest⟩

/-- What is reached is reached from something that is asked for. -/
theorem Reaches.exists_asked (h : E.Reaches vs ps n) :
    ∃ m ∈ E.asked ps, ReflTransGen (E.Leads vs) m n := by
  induction h with
  | asked hn => exact ⟨_, hn, .refl⟩
  | through _ hu hn ih =>
    obtain ⟨m, hm, hpath⟩ := ih
    exact ⟨m, hm, hpath.tail ⟨_, hu, hn⟩⟩

/-- On the way to a circle, and on the circle, there is always a next macro. -/
theorem exists_leads_of_circle {c : Text} (hpath : ReflTransGen (E.Leads vs) m c)
    (hcircle : TransGen (E.Leads vs) c c) :
    ∃ n, E.Leads vs m n ∧ ReflTransGen (E.Leads vs) n c := by
  rcases hpath.cases_head with rfl | hstep
  · exact TransGen.head'_iff.mp hcircle
  · exact hstep

/-- **Bindings that run in a circle have chains of all lengths.** -/
theorem exists_chain_of_circle {c : Text} (hreach : E.Reaches vs ps c)
    (hcircle : TransGen (E.Leads vs) c c) (length : Nat) :
    ∃ ms, E.Chain vs ps ms ∧ ms.length = length := by
  have hfrom : ∀ (length : Nat) {ps : List Piece} {m : Text}, m ∈ E.asked ps →
      ReflTransGen (E.Leads vs) m c → ∃ ms, E.Chain vs ps ms ∧ ms.length = length := by
    intro length
    induction length with
    | zero => exact fun _ _ => ⟨[], .nil, rfl⟩
    | succ length ih =>
      intro ps m hm hpath
      obtain ⟨n, ⟨u, hu, hn⟩, hpath⟩ := exists_leads_of_circle hpath hcircle
      obtain ⟨ms, hms, hlen⟩ := ih hn hpath
      exact ⟨m :: ms, .cons hm hu hms, congrArg (· + 1) hlen⟩
  obtain ⟨m, hm, hpath⟩ := hreach.exists_asked
  exact hfrom length hm hpath

/-- **The failure that is met on the way down a chain** behind some bytes, with so many levels left:
that of a token that stands before the next macro of the chain, or that of the macro for which no
level is left. -/
inductive Stops (E : Engine) (vs : Bindings) :
    Nat → Bytes → List Piece → List Text → Failure → Prop
  | earlier {left : Nat} {out : Bytes} {before after : List Piece} {k : Token} {ms : List Text}
      {e : Failure}
      (hbefore : Meaning.pieces E vs (Meaning.bound E vs left) before out = .error e) :
      Stops E vs left out (before ++ .token k :: after) (k.name :: ms) e
  | limit {out b : Bytes} {before after : List Piece} {k : Token} {ms : List Text}
      (hbefore : Meaning.pieces E vs (Meaning.bound E vs 0) before out = .ok b) :
      Stops E vs 0 out (before ++ .token k :: after) (k.name :: ms)
        (.error (.depth k.name maxDepth))
  | deeper {left : Nat} {out b : Bytes} {before after : List Piece} {k : Token} {u : Template}
      {ms : List Text} {e : Failure}
      (hbefore : Meaning.pieces E vs (Meaning.bound E vs (left + 1)) before out = .ok b)
      (hu : lookup? k.name vs = some (.template u))
      (hrest : Stops E vs left (out ++ b) (E.pieces u) ms e) :
      Stops E vs (left + 1) out (before ++ .token k :: after) (k.name :: ms) e

end Engine

namespace Meaning

open Engine

variable {E : Engine} {vs : Bindings} {nested : Text → Template → Writing}
variable {name suffix n : Text} {u : Template} {limit : Nat} {out : Bytes}

/-! ## 2. Long chains are not rendered -/

/-- A macro fails with the template that is bound to it. -/
theorem leaf_of_nested_error {e : Failure} (hskip : E.skip.contains name = false)
    (hu : lookup? name vs = some (.template u)) (h : nested name u out = .error e) :
    leaf E vs nested name suffix out = .error e := by
  have hbinding : binding E vs nested name out = .error e := by
    rw [binding, hu]
    exact h
  rw [leaf_of_not_skipped hskip, hbinding]
  rfl

/-- Pieces fail with a token when the pieces before it do not. -/
theorem pieces_of_leaf_error {before after : List Piece} {k : Token} {b : Bytes} {e : Failure}
    (hbefore : pieces E vs nested before out = .ok b)
    (h : leaf E vs nested k.name k.suffix (out ++ b) = .error e) :
    pieces E vs nested (before ++ .token k :: after) out = .error e := by
  rw [pieces_append, pieces]
  exact seq_eq_error_iff.mpr (.inr ⟨b, hbefore, seq_of_error h⟩)

/-- **A chain that is longer than the levels left is not rendered.**  The failure is the one that is
met on the way down. -/
theorem exists_stop {ps : List Piece} {ms : List Text} (h : E.Chain vs ps ms) :
    ∀ {left : Nat} (out : Bytes), left < ms.length →
      ∃ e, pieces E vs (bound E vs left) ps out = .error e ∧ E.Stops vs left out ps ms e := by
  induction h with
  | nil => exact fun _ hlen => absurd hlen (Nat.not_lt_zero _)
  | @cons ps m u ms hm hu _ ih =>
    intro left out hlen
    obtain ⟨before, k, after, rfl, rfl, hskip⟩ := exists_split_of_asked hm
    cases hbefore : pieces E vs (bound E vs left) before out with
    | error e => exact ⟨e, by rw [pieces_append, seq_of_error hbefore], .earlier hbefore⟩
    | ok b =>
      cases left with
      | zero =>
        exact ⟨_, pieces_of_leaf_error hbefore (leaf_of_nested_error hskip hu rfl), .limit hbefore⟩
      | succ left =>
        obtain ⟨e, he, hstop⟩ := ih (out ++ b) (Nat.lt_of_succ_lt_succ hlen)
        have hbound : bound E vs (left + 1) k.name u (out ++ b) = .error e := by
          rw [bound, chunks_eq_pieces, he]
        exact ⟨e, pieces_of_leaf_error hbefore (leaf_of_nested_error hskip hu hbound),
          .deeper hbefore hu hstop⟩

/-! ## 3. The limit is met at the end of a long chain -/

/-- Pieces that fail at the limit ask for a macro whose template does. -/
theorem exists_of_pieces_depth {ps : List Piece}
    (h : pieces E vs nested ps out = .error (.error (.depth n limit))) :
    ∃ m ∈ E.asked ps, ∃ u before, lookup? m vs = some (.template u) ∧
      nested m u before = .error (.error (.depth n limit)) := by
  obtain ⟨k, before, hk, hleaf⟩ := pieces_error h
  obtain hfalse | ⟨hskip, u, hu, hdepth⟩ := leaf_error hleaf
  · exact hfalse.elim
  · exact ⟨k.name, mem_asked.mpr ⟨⟨k, hk, rfl⟩, hskip⟩, u, before, hu, hdepth⟩

/-- **Where rendering fails at the limit, a chain is longer by one than the levels left.**  It ends
in the macro that the failure names. -/
theorem chain_of_depth : ∀ {left : Nat} {ps : List Piece} {out : Bytes},
    pieces E vs (bound E vs left) ps out = .error (.error (.depth n limit)) →
      limit = maxDepth ∧ ∃ ms, E.Chain vs ps (ms ++ [n]) ∧ ms.length = left
  | 0, ps, out, h => by
    obtain ⟨m, hm, u, before, hu, hdepth⟩ := exists_of_pieces_depth h
    obtain ⟨rfl, rfl⟩ : m = n ∧ maxDepth = limit := by simpa [bound, fail] using hdepth
    exact ⟨rfl, [], .cons hm hu .nil, rfl⟩
  | left + 1, ps, out, h => by
    obtain ⟨m, hm, u, before, hu, hdepth⟩ := exists_of_pieces_depth h
    rw [bound, chunks_eq_pieces] at hdepth
    obtain ⟨hlimit, ms, hms, hlen⟩ := chain_of_depth hdepth
    exact ⟨hlimit, m :: ms, .cons hm hu hms, congrArg (· + 1) hlen⟩

end Meaning

/-! ## 4. Calls -/

namespace Engine

variable {E : Engine} {vs : Bindings} {t : Template} {ms : List Text}

theorem render_eq_pieces (out : Bytes) : E.render out t vs =
    Meaning.onto out (Meaning.pieces E vs (Meaning.bound E vs maxDepth) (E.pieces t) out) := by
  rw [render_eq, Meaning.template, Meaning.chunks_eq_pieces]

/-- A template with a chain that is longer than the limit fails, and its bytes are not touched. -/
theorem exists_render_stop (h : E.Chain vs (E.pieces t) ms) (hlen : maxDepth < ms.length)
    (out : Bytes) :
    ∃ e, E.Stops vs maxDepth out (E.pieces t) ms e ∧ E.render out t vs = (.error e, out) := by
  obtain ⟨e, he, hstop⟩ := Meaning.exists_stop h out hlen
  refine ⟨e, hstop, ?_⟩
  rw [render_eq_pieces, he]
  rfl

/-- With independent bindings a template fails in the same way behind all bytes. -/
theorem render_error_of_independent (hvs : vs.Independent) {out : Bytes} {e : Failure}
    (h : E.render out t vs = (.error e, out)) (before : Bytes) :
    E.render before t vs = (.error e, before) := by
  rw [render_of_independent hvs out [] t] at h
  rw [render_of_independent hvs before [] t]
  cases hr : Meaning.template E vs t [] with
  | ok b => simp [hr, Meaning.onto] at h
  | error f =>
    rw [hr] at h
    obtain rfl : f = e := by simpa [Meaning.onto] using h
    rfl

/-- A template that fails at the limit has a chain that is longer by one. -/
theorem chain_of_render_depth {out : Bytes} {n : Text} {limit : Nat}
    (h : (E.render out t vs).1 = .error (.error (.depth n limit))) :
    limit = maxDepth ∧ ∃ ms, E.Chain vs (E.pieces t) (ms ++ [n]) ∧ ms.length = maxDepth := by
  rw [render_eq_pieces] at h
  cases hpieces : Meaning.pieces E vs (Meaning.bound E vs maxDepth) (E.pieces t) out with
  | ok b =>
    rw [hpieces] at h
    contradiction
  | error e =>
    rw [hpieces] at h
    obtain rfl : e = .error (.depth n limit) := Except.error.inj h
    exact Meaning.chain_of_depth hpieces

/-- **The depth limit is exact.**  A template that is rendered has no chain of bound templates that
is longer than the limit, and one without such a chain does not fail at the limit.  A template with
such a chain fails with what is met on the way down the chain, which is the limit or the failure of
an earlier token, and leaves its bytes as they were; bindings that run in a circle, where the
template reaches them, have such chains.  A failure at the limit names the macro that goes beyond
it.  With independent bindings the failure is the same behind all bytes.  Expansions do not count:
they add no link to a chain, however they are nested. -/
theorem depth_limit_exact (hE : E.Built) (t : Template) (vs : Bindings) :
    (∀ out, (E.render out t vs).1 = .ok () →
        ∀ ms, E.Chain vs (E.pieces t) ms → ms.length ≤ maxDepth) ∧
      ((∀ ms, E.Chain vs (E.pieces t) ms → ms.length ≤ maxDepth) →
        ∀ out n limit, (E.render out t vs).1 ≠ .error (.error (.depth n limit))) ∧
      (∀ ms, E.Chain vs (E.pieces t) ms → maxDepth < ms.length → ∀ out,
        ∃ e, E.Stops vs maxDepth out (E.pieces t) ms e ∧ E.render out t vs = (.error e, out)) ∧
      (∀ m, E.Reaches vs (E.pieces t) m → TransGen (E.Leads vs) m m →
        ∃ ms, E.Chain vs (E.pieces t) ms ∧ ∀ out,
          ∃ e, E.Stops vs maxDepth out (E.pieces t) ms e ∧ E.render out t vs = (.error e, out)) ∧
      (vs.Independent → ∀ out before e, E.render out t vs = (.error e, out) →
        E.render before t vs = (.error e, before)) ∧
      (∀ out n limit, (E.render out t vs).1 = .error (.error (.depth n limit)) →
        limit = maxDepth ∧ ∃ ms, E.Chain vs (E.pieces t) (ms ++ [n]) ∧ ms.length = maxDepth) ∧
      ∀ m ms, E.Chain vs (E.pieces t) (m :: ms) ↔ ∃ c ∈ t.chunks, E.Chain vs
        (match E.expansion? c.token.name with
          | some d => E.pieces d
          | none => [.token c.token]) (m :: ms) := by
  refine ⟨?_, ?_, fun _ => exists_render_stop, ?_,
    fun hvs _ before _ h => render_error_of_independent hvs h before,
    fun _ _ _ => chain_of_render_depth, fun _ _ => chain_pieces_iff hE.linked⟩
  · intro out hok ms hms
    by_contra hlen
    obtain ⟨e, -, hfail⟩ := exists_render_stop hms (Nat.lt_of_not_le hlen) out
    rw [hfail] at hok
    contradiction
  · intro hshort out n limit hdepth
    obtain ⟨-, ms, hms, hlen⟩ := chain_of_render_depth hdepth
    have hle := hshort _ hms
    rw [List.length_append, hlen] at hle
    exact absurd hle (Nat.not_succ_le_self _)
  · intro m hreach hcircle
    obtain ⟨ms, hms, hlen⟩ := exists_chain_of_circle hreach hcircle (maxDepth + 1)
    exact ⟨ms, hms, exists_render_stop hms (hlen ▸ Nat.lt_succ_self maxDepth)⟩

end Engine

namespace Sample

/-- A macro for each number. -/
def rung (n : Nat) : Text := List.replicate (n + 1) 'r'

/-- A template that names a macro and nothing else. -/
def naming (name : Text) : Template := ⟨[⟨[], ⟨name⟩⟩], [], .standard⟩

/-- Bindings that lead down from one macro to the next, `n` templates in all. -/
def rungs : Nat → Bindings
  | 0 => [(rung 0, .string "Ann".toList)]
  | n + 1 => (rung (n + 1), .template (naming (rung n))) :: rungs n

/-- One template more, for the macro to which the expansions in `note` lead. -/
def ladder (n : Nat) : Bindings := ("name".toList, .template (naming (rung n))) :: rungs n

/-- The expansions in `note` lead to `note` again. -/
def looped : Bindings := [("name".toList, .template note)]

theorem depth_limit_exact_note :
    engine.render [0x2D] note (ladder 31) =
        (.ok (), Text.utf8 "-To: Hello, ANN! $\x7bsecret\x7d.".toList) ∧
      (∀ ms, engine.Chain (ladder 31) (engine.pieces note) ms → ms.length ≤ 32) ∧
      engine.render [0x2D] note (ladder 32) = (.error (.error (.depth (rung 1) 32)), [0x2D]) ∧
      (∃ ms, engine.Chain (ladder 32) (engine.pieces note) (ms ++ [rung 1]) ∧ ms.length = 32) ∧
      ∃ ms, engine.Chain looped (engine.pieces note) ms ∧ ∀ out,
        ∃ e, engine.Stops looped 32 out (engine.pieces note) ms e ∧
          engine.render out note looped = (.error e, out) := by
  have hfull : engine.render [0x2D] note (ladder 31) =
      (.ok (), Text.utf8 "-To: Hello, ANN! $\x7bsecret\x7d.".toList) := by
    rw [Engine.render_eq]
    decide +kernel
  have hover : engine.render [0x2D] note (ladder 32) =
      (.error (.error (.depth (rung 1) 32)), [0x2D]) := by
    rw [Engine.render_eq]
    decide +kernel
  obtain ⟨hshort, -⟩ := Engine.depth_limit_exact built_engine note (ladder 31)
  obtain ⟨-, -, -, -, -, hlong, -⟩ := Engine.depth_limit_exact built_engine note (ladder 32)
  obtain ⟨-, -, -, hcircle, -⟩ := Engine.depth_limit_exact built_engine note looped
  have hasked : "name".toList ∈ engine.asked (engine.pieces note) := by decide +kernel
  have hleads : engine.Leads looped "name".toList "name".toList := ⟨note, rfl, hasked⟩
  exact ⟨hfull, hshort _ (by rw [hfull]), hover, (hlong _ _ _ (by rw [hover])).2,
    hcircle _ (.asked hasked) (.single hleads)⟩

end Sample
end Stencil
