/-
# Values that do not look at what stands before them

A render call gives its own output to a custom value, which appends to it.  So what the value writes
can depend on the bytes that the call was given, and then the outcome of the call does.  Nothing
else in a call looks at these bytes.

* `Value.Independent`, `Bindings.Independent`: the values write the same behind all bytes.  This is
  a condition on custom values only.
* `Meaning.Constant`: a meaning that is the same behind all bytes.  Literal text, failures and
  independent values have one, and rendering keeps it (`Meaning.kept_constant`).
* `Engine.calls_all_or_nothing`: what a call leaves behind, with and without this condition.
-/
import Stencil.Proofs.Outcomes

namespace Stencil

/-! ## 1. Independence -/

/-- **A value that writes the same behind all bytes.**  Only a custom value can fail to be one. -/
def Value.Independent : Value → Prop
  | .appendable write => ∀ before before', write before = write before'
  | _ => True

/-- Values that write the same behind all bytes. -/
def Bindings.Independent (vs : Bindings) : Prop := ∀ b ∈ vs, b.2.Independent

theorem Value.serialise_of_independent {v : Value} (h : v.Independent) (before before' : Bytes) :
    v.serialise before = v.serialise before' := by
  cases v with
  | appendable write => rw [serialise, serialise, h before before']
  | bool b => cases b <;> rfl
  | _ => rfl

namespace Meaning

/-- **A meaning that is the same behind all bytes.** -/
def Constant (x : Writing) : Prop := ∀ before before', x before = x before'

theorem constant_text (s : Text) : Constant (text s) := fun _ _ => rfl

theorem constant_fail (e : Failure) : Constant (fail e) := fun _ _ => rfl

theorem Constant.seq {x y : Writing} (hx : Constant x) (hy : Constant y) :
    Constant (seq x y) := by
  intro before before'
  cases h : x before with
  | error e => rw [seq_of_error h, seq_of_error ((hx before' before).trans h)]
  | ok a =>
    rw [seq_of_ok h, seq_of_ok ((hx before' before).trans h), hy (before ++ a) (before' ++ a)]

theorem kept_constant : Kept Constant where
  text := constant_text
  fault _ := constant_fail _
  depth _ := constant_fail _
  seq := Constant.seq

theorem constant_value {v : Value} (h : v.Independent) (name : Text) : Constant (value name v) := by
  intro before before'
  rw [value, value, Value.serialise_of_independent h before before']

variable {E : Engine} {vs : Bindings}

/-- A leaf means the same behind all bytes when a template does that is bound to its macro. -/
theorem leafKeeps_constant (hvs : vs.Independent) (k : Token) : LeafKeeps Constant E vs k := by
  intro nested hnested
  cases hskip : E.skip.contains k.name with
  | true =>
    rw [leaf_of_skipped hskip]
    exact constant_text _
  | false =>
    have hbinding : Constant (binding E vs nested k.name) :=
      binding_of_kept kept_constant (constant_fail _)
        (fun v hv => constant_value (hvs _ (mem_of_lookup? hv)) _) fun u hu => hnested u hskip hu
    intro before before'
    rw [leaf_of_not_skipped hskip, leaf_of_not_skipped hskip, hbinding before before']

/-- **With independent bindings a template means the same behind all bytes.** -/
theorem constant_template (hvs : vs.Independent) (t : Template) : Constant (template E vs t) :=
  template_of_met kept_constant fun k _ => leafKeeps_constant hvs k

/-- **With independent bindings a text means the same behind all bytes.** -/
theorem constant_inline (hvs : vs.Independent) (s : Text) : Constant (inline E vs s) :=
  inline_of_met kept_constant fun k _ => leafKeeps_constant hvs k

end Meaning

/-! ## 2. Calls -/

/-- **The call of `act` on `out` comes to `r`**: it returns what `r` returns and leaves `out` with
the bytes of `r` behind it, or `out` alone when `r` is a failure.  What the two buffers hold that
pass values from filter to filter does not count. -/
def Render.CallsTo (act : Render Unit) (out : Bytes) (r : Outcome) : Prop :=
  ∀ held spare, (Render.run act ⟨out, held, spare, 0⟩).map id Workspace.out = Meaning.onto out r

namespace Engine

variable {E : Engine} {vs : Bindings}

/-- With independent bindings a template renders the same behind all bytes. -/
theorem render_of_independent (hvs : vs.Independent) (out before : Bytes) (t : Template) :
    E.render out t vs = Meaning.onto out (Meaning.template E vs t before) := by
  rw [render_eq, Meaning.constant_template hvs t out before]

/-- With independent bindings a text renders the same behind all bytes. -/
theorem replace_of_independent (hvs : vs.Independent) (out before : Bytes) (s : Text) :
    E.replace out s vs = Meaning.onto out (Meaning.inline E vs s before) := by
  rw [replace_eq, Meaning.constant_inline hvs s out before]

/-- **Calls are all or nothing.**  A call appends to the bytes it was given, and when it fails they
are all that is left; what its buffers held before does not count.  When the custom values among the
bindings write the same behind all bytes, what the call comes to does not depend on the bytes it was
given either. -/
theorem calls_all_or_nothing (E : Engine) (vs : Bindings) :
    (∀ t out, ∃ r : Outcome, E.render out t vs = Meaning.onto out r ∧
        Render.CallsTo (Render.template E vs t) out r) ∧
      (∀ s out, ∃ r : Outcome, E.replace out s vs = Meaning.onto out r ∧
        Render.CallsTo (Render.text E vs s) out r) ∧
      (vs.Independent →
        (∀ t, ∃ r : Outcome, ∀ out, E.render out t vs = Meaning.onto out r ∧
          Render.CallsTo (Render.template E vs t) out r) ∧
        ∀ s, ∃ r : Outcome, ∀ out, E.replace out s vs = Meaning.onto out r ∧
          Render.CallsTo (Render.text E vs s) out r) := by
  have htemplate (t : Template) (out : Bytes) :
      Render.CallsTo (Render.template E vs t) out (Meaning.template E vs t out) :=
    (Render.computes_template E vs t).call out
  have htext (s : Text) (out : Bytes) :
      Render.CallsTo (Render.text E vs s) out (Meaning.inline E vs s out) :=
    (Render.computes_text E vs s).call out
  refine ⟨fun t out => ⟨_, E.render_eq out vs t, htemplate t out⟩,
    fun s out => ⟨_, E.replace_eq out vs s, htext s out⟩, fun hvs => ⟨fun t => ?_, fun s => ?_⟩⟩
  · refine ⟨Meaning.template E vs t [], fun out => ⟨render_of_independent hvs out [] t, ?_⟩⟩
    rw [Meaning.constant_template hvs t [] out]
    exact htemplate t out
  · refine ⟨Meaning.inline E vs s [], fun out => ⟨replace_of_independent hvs out [] s, ?_⟩⟩
    rw [Meaning.constant_inline hvs s [] out]
    exact htext s out

end Engine

namespace Sample

/-- A custom value that writes some bytes and then fails. -/
def torn : Bindings := [("name".toList, .custom ⟨[0x41], some "torn".toList⟩)]

/-- A custom value that writes how many bytes stand before it. -/
def counting : Bindings :=
  [("name".toList, .appendable fun before => .ok (Text.ofNat before.length).utf8)]

theorem independent_torn : Bindings.Independent torn := by
  intro b hb
  obtain rfl := List.mem_singleton.mp hb
  exact fun _ _ => rfl

theorem calls_all_or_nothing_torn :
    (∃ r : Outcome, (∀ out, engine.render out note torn = Meaning.onto out r) ∧
        r = .error (.error (.value "name".toList "torn".toList))) ∧
      engine.render [0x2D] note torn =
        (.error (.error (.value "name".toList "torn".toList)), [0x2D]) ∧
      (∀ out, ∃ r : Outcome, engine.render out note counting = Meaning.onto out r) ∧
      engine.render [] note counting =
        (.ok (), Text.utf8 "To: Hello, 11! $\x7bsecret\x7d.".toList) ∧
      engine.render [0x2D] note counting =
        (.ok (), Text.utf8 "-To: Hello, 12! $\x7bsecret\x7d.".toList) := by
  obtain ⟨-, -, hsame⟩ := Engine.calls_all_or_nothing engine torn
  obtain ⟨hcounting, -⟩ := Engine.calls_all_or_nothing engine counting
  obtain ⟨r, hr⟩ := (hsame independent_torn).1 note
  have hfails : engine.render [0x2D] note torn =
      (.error (.error (.value "name".toList "torn".toList)), [0x2D]) := by
    rw [Engine.render_eq]
    decide +kernel
  refine ⟨⟨r, fun out => (hr out).1, ?_⟩, hfails, fun out => ?_, ?_, ?_⟩
  · have honto := (hr [0x2D]).1.symm.trans hfails
    cases r with
    | ok b => simp [Meaning.onto] at honto
    | error e => simpa [Meaning.onto] using honto
  · obtain ⟨r, hr, -⟩ := hcounting note out
    exact ⟨r, hr⟩
  · rw [Engine.render_eq]
    decide +kernel
  · rw [Engine.render_eq]
    decide +kernel

end Sample
end Stencil
