/-
# What holds of all that rendering comes to

What a render call comes to is put together from literal text, from leaves and from the failures
at a marker and at the depth limit.  A property that these have, and that two outputs in a row have
when both do, holds of the whole call.

* `Engine.Meets`: the tokens that a call meets, in its own pieces and in the templates that are
  bound to macros it reaches.
* `Meaning.Kept`: a property that rendering keeps.  `Meaning.template_of_met`,
  `Meaning.inline_of_met`: it holds of a call when it holds of the leaves that are met.
* `Meaning.Always`: a property of outcomes, whatever stands before them.  `Meaning.kept_always`:
  when rendering keeps it.
* `Meaning.template_failsInRendering`, `Meaning.inline_failsInRendering`: rendering fails neither as
  a sink fails nor as a reader of UTF-8 does.
-/
import Stencil.Proofs.Reach

namespace Stencil

/-! ## 1. Tokens that are met -/

/-- What is looked up is one of the bindings. -/
theorem mem_of_lookup? {m : Text} {v : Value} {vs : Bindings} (h : lookup? m vs = some v) :
    (m, v) ∈ vs := by
  rw [lookup?_eq_head?] at h
  obtain ⟨b, hb, rfl⟩ := Option.map_eq_some_iff.mp h
  obtain ⟨hmem, hm⟩ := List.mem_filter.mp (List.mem_of_head? hb)
  exact of_decide_eq_true hm ▸ hmem

namespace Engine

/-- **The tokens that pieces meet**: their own, and those of a template that is bound to a macro
they reach. -/
inductive Meets (E : Engine) (vs : Bindings) (ps : List Piece) : Token → Prop
  | own {k : Token} (hk : .token k ∈ ps) : Meets E vs ps k
  | bound {m : Text} {u : Template} {k : Token} (hm : E.Reaches vs ps m)
      (hu : lookup? m vs = some (.template u)) (hk : .token k ∈ E.pieces u) : Meets E vs ps k

variable {E : Engine} {vs : Bindings} {ps : List Piece} {m n : Text} {u : Template} {k : Token}

/-- What a bound template reaches is reached through its macro. -/
theorem Reaches.trans (hm : E.Reaches vs ps m) (hu : lookup? m vs = some (.template u))
    (h : E.Reaches vs (E.pieces u) n) : E.Reaches vs ps n := by
  induction h with
  | asked hn => exact .through hm hu hn
  | through _ hu' hn ih => exact .through ih hu' hn

/-- What a bound template meets is met through its macro. -/
theorem Meets.trans (hm : E.Reaches vs ps m) (hu : lookup? m vs = some (.template u))
    (h : E.Meets vs (E.pieces u) k) : E.Meets vs ps k := by
  cases h with
  | own hk => exact .bound hm hu hk
  | bound hm' hu' hk => exact .bound (hm.trans hu hm') hu' hk

/-- What pieces meet is one of their tokens, or one of a template among the bindings. -/
theorem Meets.mem_tokens (h : E.Meets vs ps k) : k ∈ Piece.tokens ps ∨
    ∃ m u, (m, .template u) ∈ vs ∧ k ∈ Piece.tokens (E.pieces u) := by
  cases h with
  | own hk => exact .inl (Piece.mem_tokens.mpr hk)
  | bound _ hu hk => exact .inr ⟨_, _, mem_of_lookup? hu, Piece.mem_tokens.mpr hk⟩

end Engine

/-! ## 2. Properties that rendering keeps -/

namespace Meaning

/-- **A property that rendering keeps**: literal text has it, the failures have it that come from no
token, and two outputs in a row have it when both do. -/
structure Kept (P : Writing → Prop) : Prop where
  text : ∀ s, P (text s)
  fault : ∀ e, P (fail (.error (.parse e)))
  depth : ∀ name, P (fail (.error (.depth name maxDepth)))
  seq : ∀ {x y}, P x → P y → P (seq x y)

variable {E : Engine} {vs : Bindings} {nested : Text → Template → Writing} {P : Writing → Prop}

/-- Pieces have what their leaves have. -/
theorem pieces_of_leaves (hP : Kept P) : ∀ {ps : List Piece},
    (∀ k, .token k ∈ ps → P (leaf E vs nested k.name k.suffix)) → P (pieces E vs nested ps)
  | [], _ => hP.text []
  | .literal s :: _, h =>
    hP.seq (hP.text s) (pieces_of_leaves hP fun k hk => h k (List.mem_cons_of_mem _ hk))
  | .token k :: _, h =>
    hP.seq (h k List.mem_cons_self)
      (pieces_of_leaves hP fun k' hk => h k' (List.mem_cons_of_mem _ hk))

/-- A leaf has the property, provided that a template has it that is bound to its macro and looked
up. -/
def LeafKeeps (P : Writing → Prop) (E : Engine) (vs : Bindings) (k : Token) : Prop :=
  ∀ nested : Text → Template → Writing,
    (∀ u, E.skip.contains k.name = false → lookup? k.name vs = some (.template u) →
      P (nested k.name u)) → P (leaf E vs nested k.name k.suffix)

/-- **Pieces have what all leaves have that they meet.**  The induction is on the levels left: the
leaves that a bound template meets are met through its macro. -/
theorem pieces_of_met (hP : Kept P) : ∀ (left : Nat) {ps : List Piece},
    (∀ k, E.Meets vs ps k → LeafKeeps P E vs k) → P (pieces E vs (bound E vs left) ps)
  | 0, _, h => pieces_of_leaves hP fun k hk => h k (.own hk) _ fun _ _ _ => hP.depth k.name
  | left + 1, ps, h => by
    refine pieces_of_leaves hP fun k hk => h k (.own hk) _ fun u hskip hu => ?_
    have hreach : E.Reaches vs ps k.name := .asked (Engine.mem_asked.mpr ⟨⟨k, hk, rfl⟩, hskip⟩)
    rw [bound, chunks_eq_pieces]
    exact pieces_of_met hP left fun k' hk' => h k' (hk'.trans hreach hu)

/-- **A template has what all leaves have that it meets.** -/
theorem template_of_met (hP : Kept P) {t : Template}
    (h : ∀ k, E.Meets vs (E.pieces t) k → LeafKeeps P E vs k) : P (template E vs t) := by
  rw [template, chunks_eq_pieces]
  exact pieces_of_met hP maxDepth h

/-- **A text has what all leaves have that it meets** before its fault. -/
theorem inline_of_met (hP : Kept P) {s : Text}
    (h : ∀ k, E.Meets vs (E.textPieces s) k → LeafKeeps P E vs k) : P (inline E vs s) := by
  have hpieces := pieces_of_met hP maxDepth h
  obtain ⟨last, ⟨rest, rfl⟩ | ⟨e, rfl⟩, hlast⟩ := exists_inline_eq E.delimiters s
  · rw [hlast E vs rfl]
    exact hP.seq hpieces (hP.text rest)
  · rw [hlast E vs rfl]
    exact hP.seq hpieces (hP.fault e)

/-- **A binding has what the value or the template has that is bound**, and what literal text has
and the failure for want of a value. -/
theorem binding_of_kept (hP : Kept P) {name : Text}
    (hunbound : P (fail (.error (.unbound name))))
    (hvalue : ∀ v, lookup? name vs = some v → P (value name v))
    (hnested : ∀ u, lookup? name vs = some (.template u) → P (nested name u)) :
    P (binding E vs nested name) := by
  rw [binding]
  split
  · next u hu => exact hnested u hu
  · next v _ hv => exact hvalue v hv
  · exact hP.text _
  · exact hunbound

/-- A property of outcomes, whatever stands before them. -/
def Always (Q : Outcome → Prop) (x : Writing) : Prop := ∀ before, Q (x before)

/-- Rendering keeps a property of outcomes that literal text and the failures have, and that an
outcome has behind more bytes when these and the outcome have it. -/
theorem kept_always {Q : Outcome → Prop} (text : ∀ s : Text, Q (.ok s.utf8))
    (fault : ∀ e, Q (.error (.error (.parse e))))
    (depth : ∀ name, Q (.error (.error (.depth name maxDepth))))
    (behind : ∀ {a r}, Q (.ok a) → Q r → Q (r.map (a ++ ·))) : Kept (Always Q) where
  text s _ := text s
  fault e _ := fault e
  depth name _ := depth name
  seq {x y} hx hy before := by
    have hfirst := hx before
    cases h : x before with
    | error e => rwa [seq_of_error h, ← h]
    | ok a =>
      rw [seq_of_ok h]
      exact behind (h ▸ hfirst) (hy _)

end Meaning

/-! ## 3. How rendering fails -/

/-- A failure of rendering itself: not of a sink, and not of reading the output as text. -/
def Failure.FromRendering : Failure → Prop
  | .error (.sink _) => False
  | .error .notUtf8 => False
  | _ => True

theorem Failure.OfLeaf.fromRendering {e : Failure} (h : e.OfLeaf) : e.FromRendering := by
  cases e with
  | unprintable => trivial
  | error e =>
    cases e with
    | sink _ => exact h.elim
    | notUtf8 => exact h.elim
    | _ => trivial

namespace Meaning

/-- An outcome that does not fail otherwise than rendering does. -/
def FailsInRendering (r : Outcome) : Prop := ∀ e, r = .error e → e.FromRendering

theorem failsInRendering_ok (b : Bytes) : FailsInRendering (.ok b) := fun _ h => nomatch h

theorem failsInRendering_error {e : Failure} (h : e.FromRendering) : FailsInRendering (.error e) :=
  fun _ he => Except.error.inj he ▸ h

theorem kept_failsInRendering : Kept (Always FailsInRendering) := by
  refine kept_always (fun _ => failsInRendering_ok _) (fun _ => failsInRendering_error trivial)
    (fun _ => failsInRendering_error trivial) fun {a r} _ hr => ?_
  cases r with
  | ok b => exact failsInRendering_ok _
  | error e => exact hr

variable {E : Engine} {vs : Bindings}

/-- No leaf fails otherwise. -/
theorem leafKeeps_failsInRendering (k : Token) : LeafKeeps (Always FailsInRendering) E vs k := by
  intro nested hnested before e he
  obtain hleaf | ⟨hskip, u, hu, hfails⟩ := leaf_error he
  · exact hleaf.fromRendering
  · exact hnested u hskip hu before e hfails

theorem template_failsInRendering (E : Engine) (vs : Bindings) (t : Template) :
    Always FailsInRendering (template E vs t) :=
  template_of_met kept_failsInRendering fun k _ => leafKeeps_failsInRendering k

theorem inline_failsInRendering (E : Engine) (vs : Bindings) (s : Text) :
    Always FailsInRendering (inline E vs s) :=
  inline_of_met kept_failsInRendering fun k _ => leafKeeps_failsInRendering k

end Meaning
end Stencil
