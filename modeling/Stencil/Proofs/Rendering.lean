/-
# Rendering computes the meaning

A render call works in a workspace: it appends to bytes that it does not own, remembers offsets,
passes values from filter to filter through two buffers, counts open levels, and cuts its output
back where something fails.  This file shows that all of this comes to the meaning of the template.

* `Render.Computes d act x`: started with `d` open levels and whatever else is in the workspace,
  `act` appends the bytes that `x` comes to behind the output, or fails with its failure, never
  touches what was there before, and leaves `d` levels open.  Every step of rendering computes its
  part of the meaning.
* `filterChain_lands`: a chain of filters replaces the output from an offset on, or changes no
  output.
* `Engine.render_eq`, `Engine.replace_eq`: what a whole call returns and leaves behind.

The level count is what ties a bound template to its meaning: a chain of `n` open levels has
`maxDepth - n` left (`computes_level`).
-/
import Stencil.Proofs.Meaning

namespace Stencil
namespace Render

/-! ## 1. Steps that append -/

/-- `w'` has the output of `w` with `b` after it, and as many open levels. -/
structure Extends (w : Workspace) (b : Bytes) (w' : Workspace) : Prop where
  out : w'.out = w.out ++ b
  depth : w'.depth = w.depth

theorem Extends.trans {w w' w'' : Workspace} {a b : Bytes} (h : Extends w a w')
    (h' : Extends w' b w'') : Extends w (a ++ b) w'' :=
  ⟨by rw [h'.out, h.out, List.append_assoc], h'.depth.trans h.depth⟩

/-- How a step that comes to `r` ends when it starts at `w`.  A step that fails may leave some
output behind. -/
inductive Lands (w : Workspace) : Outcome → EStateM.Result Failure Workspace Unit → Prop
  | ok {b : Bytes} {w' : Workspace} (h : Extends w b w') : Lands w (.ok b) (.ok () w')
  | error {e : Failure} {b : Bytes} {w' : Workspace} (h : Extends w b w') :
      Lands w (.error e) (.error e w')

/-- **`act` comes to `x`** when it starts with `d` open levels. -/
def Computes (d : Nat) (act : Render Unit) (x : Writing) : Prop :=
  ∀ w : Workspace, w.depth = d → Lands w (x w.out) (act w)

variable {d : Nat} {act act' : Render Unit} {x y : Writing}

theorem computes_write (b : Bytes) : Computes d (write b) fun _ => .ok b :=
  fun _ _ => .ok ⟨rfl, rfl⟩

theorem computes_writeText (s : Text) : Computes d (writeText s) (Meaning.text s) :=
  computes_write s.utf8

theorem computes_throw (e : Failure) : Computes d (throw e) (Meaning.fail e) :=
  fun _ _ => .error (b := []) ⟨by simp, rfl⟩

theorem computes_fail (e : RenderError) : Computes d (fail e) (Meaning.fail (.error e)) :=
  computes_throw _

/-- A step that ends well is followed by the next one. -/
theorem then_of_ok {w w₁ : Workspace} (h : act w = .ok () w₁) :
    (do act; act' : Render Unit) w = act' w₁ := by
  simp [bind, EStateM.bind, h]

/-- A step that fails is the last one. -/
theorem then_of_error {e : Failure} {w w₁ : Workspace} (h : act w = .error e w₁) :
    (do act; act' : Render Unit) w = .error e w₁ := by
  simp [bind, EStateM.bind, h]

/-- Steps in a row come to their outcomes in a row. -/
theorem Computes.seq (h : Computes d act x) (h' : Computes d act' y) :
    Computes d (do act; act') (Meaning.seq x y) := by
  intro w hw
  have hact := h w hw
  cases hx : x w.out with
  | error e =>
    rw [hx] at hact
    generalize hres : act w = res at hact
    cases hact with
    | error hext =>
      rw [then_of_error hres, Meaning.seq_of_error hx]
      exact .error hext
  | ok a =>
    rw [hx] at hact
    generalize hres : act w = res at hact
    cases hact with
    | ok hext =>
      next w₁ =>
      have hact' := h' w₁ (hext.depth.trans hw)
      rw [then_of_ok hres, Meaning.seq_of_ok hx, ← hext.out]
      generalize act' w₁ = res' at hact' ⊢
      generalize y w₁.out = r at hact' ⊢
      cases hact' with
      | ok hext' => exact .ok (hext.trans hext')
      | error hext' => exact .error (hext.trans hext')

/-- Cutting back after a failure leaves what was there before. -/
theorem Computes.atomic (h : Computes d act x) : Computes d (Render.atomic act) x := by
  intro w hw
  have hact := h w hw
  unfold Render.atomic
  generalize act w = res at hact ⊢
  generalize x w.out = r at hact ⊢
  cases hact with
  | ok hext => exact .ok hext
  | error hext => exact .error (b := []) ⟨by simp [hext.out], hext.depth⟩

/-! ## 2. Filters -/

/-- How a chain of filters ends that works on the output of `w` from `offset` on: its result
takes the place of that part, or the output is as it was. -/
inductive Replaces (offset : Nat) (w : Workspace) :
    Outcome → EStateM.Result Failure Workspace Unit → Prop
  | ok {b : Bytes} {w' : Workspace} (hout : w'.out = w.out.take offset ++ b)
      (hdepth : w'.depth = w.depth) : Replaces offset w (.ok b) (.ok () w')
  | error {e : Failure} {w' : Workspace} (hout : w'.out = w.out)
      (hdepth : w'.depth = w.depth) : Replaces offset w (.error e) (.error e w')

/-- A workspace with the same output and levels is as good to start from. -/
theorem Replaces.of_eq {offset : Nat} {w w₁ : Workspace} {r : Outcome}
    {res : EStateM.Result Failure Workspace Unit} (h : Replaces offset w₁ r res)
    (hout : w₁.out = w.out) (hdepth : w₁.depth = w.depth) : Replaces offset w r res := by
  cases h with
  | ok ho hd => exact .ok (by rw [ho, hout]) (hd.trans hdepth)
  | error ho hd => exact .error (ho.trans hout) (hd.trans hdepth)

/-- The value that a filter is run on. -/
def given (offset : Nat) (first : Bool) (w : Workspace) : Bytes :=
  if first then w.out.drop offset else w.held

section Step

variable {reg : Registry} {offset : Nat} {first : Bool} {name : Text} {w : Workspace} {f : Filter}

/-- A filter that takes its value leaves what it writes to the next one. -/
theorem filterStep_of_ok (hf : reg.get? name = some f)
    (hok : (f (given offset first w)).failure = none) :
    filterStep reg offset first name w =
      .ok () { w with held := (f (given offset first w)).written, spare := w.held } := by
  unfold given at hok ⊢
  simp only [filterStep, hf, hok]

/-- A filter that fails ends the chain. -/
theorem filterStep_of_failed {reason : Text} (hf : reg.get? name = some f)
    (hfail : (f (given offset first w)).failure = some reason) :
    filterStep reg offset first name w = .error (.error (.filter name reason))
      { w with spare := (f (given offset first w)).written } := by
  unfold given at hfail ⊢
  simp only [filterStep, hf, hfail]

/-- So does a name without a filter. -/
theorem filterStep_of_none (hnone : reg.get? name = none) :
    filterStep reg offset first name w =
      .error (.error (.noFilter name (suggestions name reg.keys))) w := by
  simp only [filterStep, hnone]

end Step

/-- One filter and then the rest of its chain. -/
theorem filterStep_lands {reg : Registry} {offset : Nat} {names : List Text}
    (hrest : ∀ w, Replaces offset w (Meaning.filters reg names w.held)
      (filterRest reg offset names w)) (first : Bool) (name : Text) (w : Workspace) :
    Replaces offset w (Meaning.filters reg (name :: names) (given offset first w))
      ((do filterStep reg offset first name; filterRest reg offset names : Render Unit) w) := by
  simp only [Meaning.filters]
  cases hf : reg.get? name with
  | none =>
    rw [then_of_error (filterStep_of_none hf)]
    exact .error rfl rfl
  | some f =>
    cases hfail : (f (given offset first w)).failure with
    | some reason =>
      rw [then_of_error (filterStep_of_failed hf hfail)]
      simp only [hfail]
      exact .error rfl rfl
    | none =>
      rw [then_of_ok (filterStep_of_ok hf hfail)]
      simp only [hfail]
      exact Replaces.of_eq
        (hrest { w with held := (f (given offset first w)).written, spare := w.held }) rfl rfl

/-- The rest of a chain works on what the last filter wrote. -/
theorem filterRest_lands (reg : Registry) (offset : Nat) : ∀ (names : List Text) (w : Workspace),
    Replaces offset w (Meaning.filters reg names w.held) (filterRest reg offset names w)
  | [], _ => .ok rfl rfl
  | name :: names, w => filterStep_lands (filterRest_lands reg offset names) false name w

/-- **A chain works on the output from its offset on.** -/
theorem filterChain_lands (reg : Registry) (offset : Nat) : ∀ (names : List Text) (w : Workspace),
    Replaces offset w (Meaning.filters reg names (w.out.drop offset))
      (filterChain reg offset names w)
  | [], _ => .ok (by simp) rfl
  | name :: names, w => filterStep_lands (filterRest_lands reg offset names) true name w

/-- Filtering what a step has just appended comes to the filters after the step. -/
theorem Computes.filterChain (h : Computes d act x) (reg : Registry) (names : List Text) :
    Computes d (do let offset := (← get).out.length; act; Render.filterChain reg offset names)
      fun before => x before >>= Meaning.filters reg names := by
  intro w hw
  have hact := h w hw
  show Lands w (x w.out >>= Meaning.filters reg names)
    ((do act; Render.filterChain reg w.out.length names : Render Unit) w)
  generalize hres : act w = res at hact
  generalize x w.out = r at hact ⊢
  cases hact with
  | error hext =>
    rw [then_of_error hres]
    exact .error hext
  | @ok b w₁ hext =>
    rw [then_of_ok hres]
    have hchain := filterChain_lands reg w.out.length names w₁
    have hdrop : w₁.out.drop w.out.length = b := by simp [hext.out]
    have htake : w₁.out.take w.out.length = w.out := by simp [hext.out]
    rw [hdrop] at hchain
    show Lands w (Meaning.filters reg names b) (Render.filterChain reg w.out.length names w₁)
    generalize Render.filterChain reg w.out.length names w₁ = res' at hchain ⊢
    generalize Meaning.filters reg names b = r' at hchain ⊢
    cases hchain with
    | ok hout hdepth => exact .ok ⟨by rw [hout, htake], hdepth.trans hext.depth⟩
    | error hout hdepth => exact .error ⟨hout.trans hext.out, hdepth.trans hext.depth⟩

/-! ## 3. Macros, bodies and chunks -/

theorem computes_writeValue (name : Text) (v : Value) :
    Computes d (writeValue name v) (Meaning.value name v) := by
  intro w hw
  show Lands w (Meaning.value name v w.out) (writeSerialised name (v.serialise w.out) w)
  unfold Meaning.value
  cases v.serialise w.out with
  | ok b => exact computes_write b w hw
  | missing => exact computes_fail _ w hw
  | failed b reason => exact (computes_write b).seq (computes_fail _) w hw
  | unprintable => exact computes_throw _ w hw

section Macros

variable {E : Engine} {vs : Bindings} {nested : Text → Template → Render Unit}
  {meaning : Text → Template → Writing}
  (hn : ∀ name t, Computes d (nested name t) (meaning name t))

include hn

theorem computes_writeBinding (name : Text) :
    Computes d (writeBinding E vs nested name) (Meaning.binding E vs meaning name) := by
  unfold writeBinding Meaning.binding
  cases lookup? name vs with
  | some v =>
    cases v with
    | template t => exact hn name t
    | _ => exact computes_writeValue name _
  | none =>
    cases E.fallback with
    | some s => exact computes_writeText s
    | none => exact computes_fail _

theorem computes_replaceMacro (name suffix : Text) :
    Computes d (replaceMacro E vs nested name suffix) (Meaning.leaf E vs meaning name suffix) := by
  unfold replaceMacro Meaning.leaf
  split
  · exact computes_writeText _
  · exact ((computes_writeBinding hn name).filterChain E.filters _).atomic

theorem computes_body : ∀ b : Body,
    Computes d (body E vs nested b) (Meaning.body E vs meaning b)
  | .done s => computes_writeText s
  | .token lead t rest =>
    (computes_writeText lead).seq
      ((computes_replaceMacro hn t.name t.suffix).seq (computes_body rest))
  | .expand lead _ b rest =>
    (computes_writeText lead).seq ((computes_body b).atomic.seq (computes_body rest))

theorem computes_replaceResolved (name suffix : Text) :
    Computes d (replaceResolved E vs nested name suffix)
      (Meaning.token E vs meaning name suffix) := by
  unfold replaceResolved Meaning.token
  cases E.bodies.get? name with
  | some b => exact (computes_body hn b).atomic
  | none => exact computes_replaceMacro hn name suffix

theorem computes_chunks (tail : Text) : ∀ cs : List Chunk,
    Computes d (chunks E vs nested tail cs) (Meaning.chunks E vs meaning tail cs)
  | [] => computes_writeText tail
  | c :: cs =>
    (computes_writeText c.lead).seq
      ((computes_replaceResolved hn c.token.name c.token.suffix).seq (computes_chunks tail cs))

end Macros

/-! ## 4. Levels -/

/-- Below the limit a level is opened and closed again. -/
theorem nest_of_lt {w : Workspace} (h : w.depth < maxDepth) (deeper : Template → Render Unit)
    (name : Text) (t : Template) :
    nest deeper name t w = closing (deeper t) { w with depth := w.depth + 1 } := by
  show (if maxDepth ≤ w.depth then fail (.depth name maxDepth)
    else do modify fun w => { w with depth := w.depth + 1 }; closing (deeper t)) w = _
  rw [if_neg (Nat.not_le.mpr h)]
  rfl

/-- At the limit no further level is opened. -/
theorem nest_of_le {w : Workspace} (h : maxDepth ≤ w.depth) (deeper : Template → Render Unit)
    (name : Text) (t : Template) :
    nest deeper name t w = fail (.depth name maxDepth) w := by
  show (if maxDepth ≤ w.depth then fail (.depth name maxDepth)
    else do modify fun w => { w with depth := w.depth + 1 }; closing (deeper t)) w = _
  rw [if_pos h]

/-- Closing a level leaves as many open as there were before it. -/
theorem closing_lands {w : Workspace} {r : Outcome}
    (h : Lands { w with depth := w.depth + 1 } r (act { w with depth := w.depth + 1 })) :
    Lands w r (closing act { w with depth := w.depth + 1 }) := by
  unfold closing
  generalize act { w with depth := w.depth + 1 } = res at h ⊢
  cases h with
  | ok hx => exact .ok ⟨hx.out, by simp [hx.depth]⟩
  | error hx => exact .error ⟨hx.out, by simp [hx.depth]⟩

/-- What is rendered one level deeper counts its level while it is rendered, and not after. -/
theorem computes_nest {deeper : Template → Render Unit} {t : Template} (hd : d < maxDepth)
    (h : Computes (d + 1) (deeper t) x) (name : Text) : Computes d (nest deeper name t) x := by
  intro w hw
  rw [nest_of_lt (hw ▸ hd)]
  exact closing_lands (h _ (by rw [hw]))

/-- With all levels open no further one is opened. -/
theorem computes_nest_full (deeper : Template → Render Unit) (name : Text) (t : Template) :
    Computes maxDepth (nest deeper name t) (Meaning.fail (.error (.depth name maxDepth))) := by
  intro w hw
  rw [nest_of_le (Nat.le_of_eq hw.symm)]
  exact computes_fail _ w hw

/-- **The levels that are not open are the levels left.** -/
theorem computes_level (E : Engine) (vs : Bindings) : ∀ {left d : Nat}, left + d = maxDepth →
    ∀ name t, Computes d (nest (level E vs left) name t) (Meaning.bound E vs left name t)
  | 0, d, h, name, t => by
    obtain rfl : d = maxDepth := by omega
    exact computes_nest_full _ name t
  | left + 1, d, h, name, t =>
    computes_nest (by omega)
      (computes_chunks (computes_level E vs (by omega : left + (d + 1) = maxDepth)) t.tail t.chunks)
      name

theorem computes_template (E : Engine) (vs : Bindings) (t : Template) :
    Computes 0 (template E vs t) (Meaning.template E vs t) :=
  computes_chunks (computes_level E vs rfl) t.tail t.chunks

theorem computes_segments (E : Engine) (vs : Bindings) : ∀ segs : Segments,
    Computes 0 (segments E vs segs) (Meaning.segments E vs (Meaning.bound E vs maxDepth) segs)
  | .tail s => computes_writeText s
  | .unmatched _ => computes_fail _
  | .token lead _ rest =>
    (computes_writeText lead).seq
      ((computes_replaceResolved (computes_level E vs rfl) _ _).seq (computes_segments E vs rest))

theorem computes_text (E : Engine) (vs : Bindings) (s : Text) :
    Computes 0 (text E vs s) (Meaning.inline E vs s) :=
  computes_segments E vs _

end Render

/-! ## 5. Whole calls -/

/-- A whole call on a workspace returns its outcome, appends to the output only when it ends
well, and leaves as many levels open as it found. -/
theorem Render.Computes.run {d : Nat} {act : Render Unit} {x : Writing}
    (h : Render.Computes d act x) {w : Workspace} (hw : w.depth = d) :
    (Render.run act w).1 = (Meaning.onto w.out (x w.out)).1 ∧
      (Render.run act w).2.out = (Meaning.onto w.out (x w.out)).2 ∧
      (Render.run act w).2.depth = d := by
  have hact := h w hw
  unfold Render.run Render.atomic
  generalize act w = res at hact ⊢
  generalize x w.out = r at hact ⊢
  cases hact with
  | ok hext => exact ⟨rfl, hext.out, hext.depth.trans hw⟩
  | error hext => exact ⟨rfl, by simp [hext.out, Meaning.onto], hext.depth.trans hw⟩

/-- A call that starts with no open level returns its outcome and leaves the bytes that the
outcome makes of the caller's, whatever the buffers hold. -/
theorem Render.Computes.call {act : Render Unit} {x : Writing} (h : Render.Computes 0 act x)
    (out held spare : Bytes) :
    (Render.run act ⟨out, held, spare, 0⟩).map id Workspace.out = Meaning.onto out (x out) := by
  obtain ⟨hret, hout, -⟩ := h.run (w := ⟨out, held, spare, 0⟩) rfl
  exact Prod.ext hret hout

namespace Engine

variable (E : Engine) (out : Bytes) (vs : Bindings)

/-- **Rendering a template appends its meaning**, or fails and appends nothing. -/
theorem render_eq (t : Template) :
    E.render out t vs = Meaning.onto out (Meaning.template E vs t out) :=
  (Render.computes_template E vs t).call out [] []

/-- **Rendering a text appends its meaning**, or fails and appends nothing. -/
theorem replace_eq (s : Text) :
    E.replace out s vs = Meaning.onto out (Meaning.inline E vs s out) :=
  (Render.computes_text E vs s).call out [] []

end Engine

namespace Sample

/-- A template that names an expansion, with a filter that is ignored. -/
def note : Template := ⟨[⟨"To: ".toList, ⟨"letter:upper".toList⟩⟩], ".".toList, .standard⟩

def bindings : Bindings := [("name".toList, .string "Ann".toList), ("secret".toList, .none)]

end Sample
end Stencil
