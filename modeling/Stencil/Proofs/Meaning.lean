/-
# The meaning of a template

What a template stands for, without a workspace: bytes, or the failure that takes their place.
Reading goes from left to right, the first failure decides, and there are no offsets, no buffers
that pass values on and nothing to cut back.

A custom value may look at the bytes that stand before it, so a meaning is given behind such bytes
(`Writing`).  Nothing else looks at them.

* `Meaning.leaf`: a macro that is no expansion.  It is echoed when it is on the skip list;
  otherwise its filters are applied in order to the bytes of its first binding, or of the
  default value.
* `Meaning.token`: any macro.  An expansion means what its body means.
* `Meaning.chunks`, `Meaning.segments`: chunks and a tail, and a text that is cut at its markers.
* `Meaning.bound`: a bound template, with so many levels left to open.
* `Meaning.onto`: what a call makes of an outcome.
* `Meaning.leaf_error`: how a leaf fails.

Bodies are linked trees.  In a linked engine the tree of an expansion means the same as the
template that was written for it, read chunk by chunk (`token_of_expansion`).
-/
import Stencil.Proofs.Linked
import Stencil.Render

namespace Stencil

/-- What rendering comes to: the bytes it appends, or why it appends none. -/
abbrev Outcome := Except Failure Bytes

/-- What rendering comes to behind the bytes that stand before it. -/
abbrev Writing := Bytes → Outcome

/-- A failure of a leaf itself: of its value, of one of its filters, or for want of a value. -/
def Failure.OfLeaf : Failure → Prop
  | .error (.unbound _) => True
  | .error (.value _ _) => True
  | .error (.noFilter _ _) => True
  | .error (.filter _ _) => True
  | .unprintable => True
  | _ => False

namespace Meaning

/-! ## 1. The evaluator -/

/-- One output after another; the first failure decides. -/
def seq (x y : Writing) : Writing := fun before =>
  match x before with
  | .ok a => (y (before ++ a)).map (a ++ ·)
  | .error e => .error e

/-- Literal text. -/
def text (s : Text) : Writing := fun _ => .ok s.utf8

/-- A failure. -/
def fail (e : Failure) : Writing := fun _ => .error e

/-- A value bound to `name`. -/
def value (name : Text) (v : Value) : Writing := fun before =>
  match v.serialise before with
  | .ok b => .ok b
  | .missing => .error (.error (.unbound name))
  | .failed _ reason => .error (.error (.value name reason))
  | .unprintable => .error .unprintable

/-- Filters in order: each is applied to what the one before it gave. -/
def filters (reg : Registry) : List Text → Bytes → Outcome
  | [], b => .ok b
  | name :: names, b =>
    match reg.get? name with
    | none => .error (.error (.noFilter name (suggestions name reg.keys)))
    | some f =>
      match (f b).failure with
      | some reason => .error (.error (.filter name reason))
      | none => filters reg names (f b).written

variable (E : Engine) (vs : Bindings)

/-- The first binding of a macro, or the default value.  `nested` gives bound templates. -/
def binding (nested : Text → Template → Writing) (name : Text) : Writing :=
  match lookup? name vs, E.fallback with
  | some (.template t), _ => nested name t
  | some v, _ => value name v
  | none, some fallback => text fallback
  | none, none => fail (.error (.unbound name))

/-- A macro that is no expansion, with a filter suffix. -/
def leaf (nested : Text → Template → Writing) (name suffix : Text) : Writing :=
  if E.skip.contains name then text (E.delimiters.echo name suffix)
  else fun before =>
    binding E vs nested name before >>= filters E.filters (Token.filterNames suffix)

/-- The body of an expansion. -/
def body (nested : Text → Template → Writing) : Body → Writing
  | .done s => text s
  | .token lead t rest =>
    seq (text lead) (seq (leaf E vs nested t.name t.suffix) (body nested rest))
  | .expand lead _ b rest => seq (text lead) (seq (body nested b) (body nested rest))

/-- A macro with a filter suffix; the filters of an expansion are ignored. -/
def token (nested : Text → Template → Writing) (name suffix : Text) : Writing :=
  match E.bodies.get? name with
  | some b => body E vs nested b
  | none => leaf E vs nested name suffix

/-- Chunks and a tail. -/
def chunks (nested : Text → Template → Writing) (tail : Text) : List Chunk → Writing
  | [] => text tail
  | c :: cs =>
    seq (text c.lead) (seq (token E vs nested c.token.name c.token.suffix) (chunks nested tail cs))

/-- The template bound to `name`, with at most `left` more levels to open. -/
def bound : (left : Nat) → Text → Template → Writing
  | 0, name, _ => fail (.error (.depth name maxDepth))
  | left + 1, _, t => chunks E vs (bound left) t.tail t.chunks

/-- A template, with all levels left. -/
def template (t : Template) : Writing := chunks E vs (bound E vs maxDepth) t.tail t.chunks

/-- A text that is cut at its markers. -/
def segments (nested : Text → Template → Writing) : Segments → Writing
  | .tail s => text s
  | .unmatched position => fail (.error (.parse ⟨E.delimiters.start, position⟩))
  | .token lead inner rest =>
    let (name, suffix) := Token.split inner.trim
    seq (text lead) (seq (token E vs nested (E.aliases.resolve name) suffix) (segments nested rest))

/-- A text that is not compiled, with all levels left. -/
def inline (s : Text) : Writing := segments E vs (bound E vs maxDepth) (E.delimiters.segments 0 s)

/-- What a call that was given `out` returns and leaves behind. -/
def onto (out : Bytes) : Outcome → Except Failure Unit × Bytes
  | .ok b => (.ok (), out ++ b)
  | .error e => (.error e, out)

/-! ## 2. Outputs in a row -/

section Rows

variable {x y : Writing} {before : Bytes}

theorem seq_of_ok {a : Bytes} (h : x before = .ok a) :
    seq x y before = (y (before ++ a)).map (a ++ ·) := by
  rw [seq, h]

theorem seq_of_error {e : Failure} (h : x before = .error e) : seq x y before = .error e := by
  rw [seq, h]

theorem text_seq (s : Text) :
    seq (text s) x before = (x (before ++ s.utf8)).map (s.utf8 ++ ·) := rfl

/-- Two outputs in a row fail with the first, or with the second behind the first. -/
theorem seq_eq_error_iff {e : Failure} : seq x y before = .error e ↔
    x before = .error e ∨ ∃ a, x before = .ok a ∧ y (before ++ a) = .error e := by
  cases hx : x before with
  | error f => simp [seq_of_error hx]
  | ok a =>
    rw [seq_of_ok hx]
    cases hy : y (before ++ a) <;> simp [Except.map, hy]

end Rows

theorem seq_assoc (x y z : Writing) : seq (seq x y) z = seq x (seq y z) := by
  funext before
  cases hx : x before with
  | error e => rw [seq_of_error hx, seq_of_error (seq_of_error hx)]
  | ok a =>
    cases hy : y (before ++ a) with
    | error e =>
      have hxy : seq x y before = .error e := seq_eq_error_iff.mpr (.inr ⟨a, hx, hy⟩)
      rw [seq_of_error hxy, seq_of_ok hx, seq_of_error hy]
      rfl
    | ok b =>
      have hxy : seq x y before = .ok (a ++ b) := by rw [seq_of_ok hx, hy, Except.map]
      rw [seq_of_ok hxy, seq_of_ok hx, seq_of_ok hy, List.append_assoc]
      cases z (before ++ (a ++ b)) <;> simp [Except.map]

@[simp] theorem text_nil_seq (x : Writing) : seq (text []) x = x := by
  funext before
  simp only [seq, text, Text.utf8_nil, List.append_nil]
  cases x before <;> rfl

theorem seq_text_nil (x : Writing) : seq x (text []) = x := by
  funext before
  cases hx : x before with
  | error e => rw [seq_of_error hx]
  | ok a => rw [seq_of_ok hx, text, Except.map, Text.utf8_nil, List.append_nil]

theorem seq_text_text (s t : Text) : seq (text s) (text t) = text (s ++ t) := by
  funext before
  simp [seq, text, Except.map]

/-! ## 3. Leaves and how they fail -/

section Leaves

variable {E : Engine} {vs : Bindings} {nested : Text → Template → Writing} {name suffix : Text}
  {before : Bytes} {e : Failure}

theorem leaf_of_skipped (h : E.skip.contains name = true) :
    leaf E vs nested name suffix = text (E.delimiters.echo name suffix) := by
  rw [leaf, if_pos h]

theorem leaf_of_not_skipped (h : E.skip.contains name = false) :
    leaf E vs nested name suffix before =
      binding E vs nested name before >>= filters E.filters (Token.filterNames suffix) := by
  rw [leaf, h]
  rfl

theorem ofLeaf_of_filters {reg : Registry} : ∀ {names : List Text} {b : Bytes},
    filters reg names b = .error e → e.OfLeaf
  | [], _, h => by contradiction
  | name :: names, b, h => by
    rw [filters] at h
    split at h
    · exact Except.error.inj h ▸ trivial
    · split at h
      · exact Except.error.inj h ▸ trivial
      · exact ofLeaf_of_filters h

theorem ofLeaf_of_value {v : Value} (h : value name v before = .error e) : e.OfLeaf := by
  rw [value] at h
  split at h
  · contradiction
  all_goals exact Except.error.inj h ▸ trivial

/-- A binding fails by itself, or with the template that is bound. -/
theorem binding_error (h : binding E vs nested name before = .error e) :
    e.OfLeaf ∨ ∃ u, lookup? name vs = some (.template u) ∧ nested name u before = .error e := by
  rw [binding] at h
  cases hv : lookup? name vs with
  | some v =>
    rw [hv] at h
    cases v with
    | template u => exact .inr ⟨u, rfl, h⟩
    | _ => exact .inl (ofLeaf_of_value h)
  | none =>
    rw [hv] at h
    cases hf : E.fallback with
    | some s =>
      rw [hf] at h
      contradiction
    | none =>
      rw [hf] at h
      exact .inl (Except.error.inj h ▸ trivial)

/-- **A leaf fails by itself, or with the template that is bound to its macro.** -/
theorem leaf_error (h : leaf E vs nested name suffix before = .error e) : e.OfLeaf ∨
    E.skip.contains name = false ∧
      ∃ u, lookup? name vs = some (.template u) ∧ nested name u before = .error e := by
  cases hskip : E.skip.contains name with
  | true =>
    rw [leaf_of_skipped hskip] at h
    contradiction
  | false =>
    rw [leaf_of_not_skipped hskip] at h
    cases hbinding : binding E vs nested name before with
    | error e' =>
      rw [hbinding] at h
      obtain rfl := Except.error.inj h
      exact (binding_error hbinding).imp_right fun hu => ⟨rfl, hu⟩
    | ok b =>
      rw [hbinding] at h
      exact .inl (ofLeaf_of_filters h)

end Leaves

/-! ## 4. An expansion means what was written for it -/

variable {E vs} {nested : Text → Template → Writing}

/-- In a linked body the tokens mean what their macros mean. -/
theorem body_eq_chunks : ∀ {b : Body}, b.Linked E.bodies →
    body E vs nested b = chunks E vs nested b.tail b.chunks
  | .done _, _ => rfl
  | .token lead t rest, ⟨ht, hrest⟩ => by
    simp [body, chunks, Body.chunks, Body.tail, token, ht, body_eq_chunks hrest]
  | .expand lead t b rest, ⟨ht, hrest⟩ => by
    simp [body, chunks, Body.chunks, Body.tail, token, ht, body_eq_chunks hrest]

/-- **An expansion means its template**, whatever filters its token names. -/
theorem token_of_expansion (hE : E.Linked) {name : Text} {d : Template}
    (h : E.expansion? name = some d) (suffix : Text) :
    token E vs nested name suffix = chunks E vs nested d.tail d.chunks := by
  obtain ⟨b, hb, rfl⟩ := Option.map_eq_some_iff.mp h
  rw [token, hb]
  exact body_eq_chunks (hE hb)

/-- A macro that is no expansion means a leaf. -/
theorem token_of_not_expansion {name : Text} (h : E.expansion? name = none) (suffix : Text) :
    token E vs nested name suffix = leaf E vs nested name suffix := by
  rw [token, Option.map_eq_none_iff.mp h]

end Meaning
end Stencil
