/-
# What reaches the sink, and what stays in the buffer

A printer renders into its buffer and then writes the buffer to a sink, which may take a part of
what it is offered, take nothing, or fail.  This file accounts for every byte on both sides.

* `Sink.Appends`: what is relied on of a sink that has a content.  `Sink.Appends.writeAll`: writing
  puts a prefix into it, and ends well exactly when the prefix is all.
* `Printer.Reachable`: the printers of an engine, new or used, however their calls ended.
* `Printer.Accounts`: what a call may leave in a sink and return.  `Printer.deliveries_account`: every
  call keeps to it, and a text and its template are delivered alike.
* `Printer.Call.Told`: the buffer holds the output of a call that ended well and is empty after one
  that failed.  `Printer.buffer_after_calls`: so it is, unless the sink failed; then the output stays
  in the buffer.

A sink is written to by one write after another.  A write that is interrupted and made again counts
as one with the write that follows it.
-/
import Mathlib.Data.List.Forall2
import Stencil.Proofs.Outcomes
import Stencil.Proofs.Session

namespace Stencil

variable {σ : Type}

/-! ## 1. Writing to a sink -/

namespace Sink

/-- **What is relied on of a sink** with a content: a write appends as many of the bytes it is
offered as it says, and a write that fails appends none. -/
structure Appends (sink : Sink σ) (content : σ → Bytes) : Prop where
  took : ∀ {s s' : σ} {b : Bytes} {n : Nat}, sink s b = (.took n, s') →
    content s' = content s ++ b.take n
  failed : ∀ {s s' : σ} {b : Bytes} {reason : Text}, sink s b = (.failed reason, s') →
    content s' = content s

/-- How writing all of `rest` ends for a sink in state `s`: with `taken` in the sink. -/
structure Filled (content : σ → Bytes) (s : σ) (rest : Bytes) (failure : Option Text)
    (taken : Bytes) (s' : σ) : Prop where
  content_eq : content s' = content s ++ taken
  isPrefix : taken <+: rest
  whole : failure = none ↔ taken = rest

variable {sink : Sink σ} {content : σ → Bytes}

/-- Writing on with the rest. -/
theorem Filled.append {s s' s'' : σ} {b rest taken : Bytes} {failure : Option Text}
    (hs : content s' = content s ++ b) (h : Filled content s' rest failure taken s'') :
    Filled content s (b ++ rest) failure (b ++ taken) s'' :=
  ⟨by rw [h.content_eq, hs, List.append_assoc], (List.prefix_append_right_inj b).mpr h.isPrefix,
    by rw [h.whole, List.append_cancel_left_eq]⟩

/-- A write that ends it before all is taken. -/
theorem Filled.stopped {s s' : σ} {b : UInt8} {bs : Bytes} (hs : content s' = content s)
    (reason : Text) : Filled content s (b :: bs) (some reason) [] s' :=
  ⟨by rw [hs, List.append_nil], List.nil_prefix, by simp⟩

/-- **Writing puts a prefix into the sink**, and ends well exactly when the prefix is all. -/
theorem Appends.writeAll (h : sink.Appends content) : ∀ (s : σ) (rest : Bytes),
    Filled content s rest (sink.writeAll s rest).1 (sink.writeAll s rest).2.1
      (sink.writeAll s rest).2.2
  | s, [] => by
    rw [Sink.writeAll]
    exact ⟨(List.append_nil _).symm, List.prefix_rfl, by simp⟩
  | s, b :: bs => by
    rw [Sink.writeAll]
    cases hanswer : sink s (b :: bs) with
    | mk answer s' =>
      cases answer with
      | failed reason => exact .stopped (h.failed hanswer) reason
      | took n =>
        have hcontent := h.took hanswer
        cases n with
        | zero => exact .stopped (by rw [hcontent, List.take_zero, List.append_nil]) _
        | succ n =>
          rw [List.take_succ_cons] at hcontent
          have hrest := (Appends.writeAll h s' (bs.drop n)).append hcontent
          rwa [List.cons_append, List.take_append_drop] at hrest
termination_by _ rest => rest.length
decreasing_by simp only [List.length_cons, List.length_drop]; omega

end Sink

namespace Printer

/-! ## 2. The accounts of a call -/

/-- **The printers of an engine**: a new one, and what any call leaves of one. -/
inductive Reachable (E : Engine) : Printer → Prop
  | new : Reachable E (new E)
  | run {σ : Type} {p : Printer} (hp : Reachable E p) (s : σ) (c : Call σ) :
      Reachable E (p.run s c).2

/-- **The accounts of a call** that writes to a sink in state `s`, when rendering alone comes to
`rendered`, a result and its output. -/
structure Accounts (content : σ → Bytes) (s : σ) (rendered : Except Failure Unit × Bytes)
    (w : Written σ) : Prop where
  /-- What the sink took is appended to what it held. -/
  content_eq : content w.sink = content s ++ w.taken
  isPrefix : w.taken <+: rendered.2
  /-- Nothing is written of a call that fails in rendering. -/
  unrendered : ∀ e, rendered.1 = .error e → w.taken = [] ∧ w.result = .error e
  /-- The call ends well exactly when all is written, and counts it. -/
  whole : rendered.1 = .ok () → ∀ n, w.result = .ok n ↔ w.taken = rendered.2 ∧ n = rendered.2.length
  /-- Otherwise it fails with its sink. -/
  part : rendered.1 = .ok () → w.taken ≠ rendered.2 →
    ∃ reason, w.result = .error (.error (.sink reason))

variable {E : Engine} {p : Printer} {act : Render Unit} {x : Writing} {sink : Sink σ}
variable {content : σ → Bytes}

theorem Reachable.idle (hp : Reachable E p) : Idle E p := by
  induction hp with
  | new => exact idle_new E
  | run _ s c ih => exact (ih.run s c).2

/-- **A delivery keeps to its accounts.** -/
theorem Idle.accounts (hp : Idle E p) (h : Render.Computes 0 act x) (hsink : sink.Appends content)
    (s : σ) : Accounts content s (Meaning.onto [] (x [])) (p.deliver sink s act) := by
  obtain ⟨hresult, hbytes, -⟩ := hp.fill h
  unfold Printer.deliver
  generalize p.fill act = filled at hresult hbytes
  obtain ⟨result, p'⟩ := filled
  generalize x [] = r at hresult hbytes ⊢
  cases r with
  | error e =>
    obtain rfl : result = .error e := hresult
    exact {
      content_eq := (List.append_nil _).symm
      isPrefix := List.nil_prefix
      unrendered := fun e' he => ⟨rfl, congrArg _ (Except.error.inj he)⟩
      whole := fun hok => by contradiction
      part := fun hok => by contradiction }
  | ok b =>
    obtain rfl : result = .ok () := hresult
    have hb : p'.bytes = b := hbytes
    have hfilled := hsink.writeAll s b
    simp only [hb, Meaning.onto, List.nil_append]
    generalize sink.writeAll s b = answer at hfilled
    obtain ⟨failure, taken, s'⟩ := answer
    cases failure with
    | none =>
      have hall : taken = b := hfilled.whole.mp rfl
      exact {
        content_eq := hfilled.content_eq
        isPrefix := hfilled.isPrefix
        unrendered := fun e he => by contradiction
        whole := fun _ n => by simp [hall, eq_comm]
        part := fun _ hne => absurd hall hne }
    | some reason =>
      have hpart : taken ≠ b := fun hall => Option.some_ne_none _ (hfilled.whole.mpr hall)
      exact {
        content_eq := hfilled.content_eq
        isPrefix := hfilled.isPrefix
        unrendered := fun e he => by contradiction
        whole := fun _ n => by simp [hpart]
        part := fun _ _ => ⟨reason, rfl⟩ }

/-- **Sinks see all or nothing, and every byte is accounted for.**  A printer may be new or used.
What a call appends to the content of its sink is a prefix of what the engine renders: nothing of a
call that fails in rendering, which returns that failure, and all of a call that ends well, which
returns the number of bytes; a call that is rendered and not written in full fails with its sink.  A
text that compiles is delivered as its template is. -/
theorem deliveries_account (hE : E.Built) (hp : Reachable E p) (hsink : sink.Appends content)
    (s : σ) :
    (∀ t vs, Accounts content s (E.render [] t vs) (p.execute sink s t vs)) ∧
      (∀ text vs, Accounts content s (E.replace [] text vs) (p.fprintf sink s text vs)) ∧
      ∀ text t vs, E.compile text = .ok t →
        (p.fprintf sink s text vs).observe = (p.execute sink s t vs).observe := by
  have hidle := hp.idle
  obtain rfl := hidle.engine
  refine ⟨fun t vs => ?_, fun text vs => ?_, fun text t vs ht => ?_⟩
  · rw [Engine.render_eq]
    exact hidle.accounts (Render.computes_template p.engine vs t) hsink s
  · rw [Engine.replace_eq]
    exact hidle.accounts (Render.computes_text p.engine vs text) hsink s
  · have htext := hidle.deliver (Render.computes_text p.engine vs text) sink s
    have htemplate := hidle.deliver (Render.computes_template p.engine vs t) sink s
    rw [Printer.fprintf, Printer.execute, htext.1, htemplate.1,
      Meaning.template_of_compile hE.linked ht]

end Printer

namespace Sample

/-- A box with room for ten bytes that takes at most four at a time. -/
def box : Sink Bytes := fun held offered =>
  let count := min (min 4 offered.length) (10 - held.length)
  (.took count, held ++ offered.take count)

theorem box_appends : box.Appends id where
  took := by
    intro s s' b n h
    obtain ⟨hn, rfl⟩ := Prod.mk.inj h
    rw [Answer.took.inj hn]
    rfl
  failed := by
    intro s s' b reason h
    nomatch (Prod.mk.inj h).1

/-- A printer whose last call failed at the deepest level. -/
def usedPrinter : Printer :=
  ((Printer.new engine).run [] (.execute box nested [("nested".toList, .template nested)])).2

theorem reachable_usedPrinter : Printer.Reachable engine usedPrinter := .run .new _ _

/-- Of the second call the box has room for a part. -/
theorem deliveries_account_box :
    Printer.Accounts id [] (engine.replace [] "Hi $\x7bname\x7d".toList bindings)
        (usedPrinter.fprintf box [] "Hi $\x7bname\x7d".toList bindings) ∧
      (usedPrinter.fprintf box [] "Hi $\x7bname\x7d".toList bindings).result = .ok 6 ∧
      Printer.Accounts id (Text.utf8 "Hi Ann".toList) (engine.render [] note bindings)
        (usedPrinter.execute box (Text.utf8 "Hi Ann".toList) note bindings) ∧
      (usedPrinter.execute box (Text.utf8 "Hi Ann".toList) note bindings).sink =
        Text.utf8 "Hi AnnTo: ".toList ∧
      Printer.Accounts id [] (engine.render [] nested [("nested".toList, .template nested)])
        (usedPrinter.execute box [] nested [("nested".toList, .template nested)]) ∧
      ∃ t, engine.compile circular = .ok t ∧
        (usedPrinter.fprintf box [] circular bindings).observe =
          (usedPrinter.execute box [] t bindings).observe := by
  obtain ⟨hexecute, hfprintf, hsame⟩ :=
    Printer.deliveries_account built_engine reachable_usedPrinter box_appends []
  obtain ⟨hexecute', -, -⟩ := Printer.deliveries_account built_engine reachable_usedPrinter
    box_appends (Text.utf8 "Hi Ann".toList)
  have hscan : engine.delimiters.segments 0 circular
      = .after circularParts (.tail ".".toList) := by decide +kernel
  obtain ⟨t, ht, -⟩ := Engine.compile_of_parts built_engine.linked hscan
  exact ⟨hfprintf _ _, by decide +kernel, hexecute' _ _, by decide +kernel, hexecute _ _,
    t, ht, hsame _ _ _ ht⟩

end Sample

/-! ## 3. The buffer after a call -/

namespace Printer

namespace Call

/-- What the engine alone makes of the template or text of a call: a result and the output. -/
def rendered (E : Engine) : Call σ → Except Failure Unit × Bytes
  | .sprintf text vs => E.replace [] text vs
  | .fprintf _ text vs => E.replace [] text vs
  | .execute _ t vs => E.render [] t vs

/-- **The buffer tells of its call**: after a call that ends well it holds the output, and after one
that fails it is empty. -/
structure Told (E : Engine) (c : Call σ) (o : Observation σ) : Prop where
  output : ∀ reply, o.result = .ok reply → o.bytes = (c.rendered E).2
  empty : ∀ e, o.result = .error e → o.bytes = []

/-- What is in the buffer after a call: the output, if there is one, whatever became of it. -/
structure Kept (E : Engine) (c : Call σ) (o : Observation σ) : Prop where
  bytes_eq : o.bytes = (c.rendered E).2
  unrendered : ∀ e, (c.rendered E).1 = .error e → o.result = .error e ∧ o.bytes = []
  told_iff : c.Told E o ↔ ∀ reason, o.result ≠ .error (.error (.sink reason))

end Call

/-- A call keeps its output in the buffer when it ends as its outcome says, or has an output and
fails with its sink. -/
theorem Call.kept_of_outcome {E : Engine} {c : Call σ} {o : Observation σ} {r : Outcome}
    (hr : Meaning.FailsInRendering r) (hrendered : c.rendered E = Meaning.onto [] r)
    (hbytes : o.bytes = (Meaning.onto [] r).2) (herror : ∀ e, r = .error e → o.result = .error e)
    (hok : ∀ b, r = .ok b → (∃ reply, o.result = .ok reply) ∨
      b ≠ [] ∧ ∃ reason, o.result = .error (.error (.sink reason))) : c.Kept E o := by
  cases r with
  | error e =>
    have hresult := herror e rfl
    refine ⟨hrendered ▸ hbytes, fun e' he => ?_, fun _ reason hsink => ?_, fun _ => ?_⟩
    · rw [hrendered] at he
      exact ⟨hresult.trans (congrArg _ (Except.error.inj he)), hbytes⟩
    · exact hr _ (congrArg _ (Except.error.inj (hresult.symm.trans hsink)))
    · exact ⟨fun reply hreply => (nomatch hresult.symm.trans hreply), fun _ _ => hbytes⟩
  | ok b =>
    have hb : o.bytes = b := hbytes
    refine ⟨hrendered ▸ hbytes, fun e he => ?_, fun htold reason hsink => ?_, fun hnone => ?_⟩
    · rw [hrendered] at he
      nomatch he
    · rcases hok b rfl with ⟨reply, hreply⟩ | ⟨hne, -⟩
      · nomatch hreply.symm.trans hsink
      · exact hne (hb.symm.trans (htold.empty _ hsink))
    · rcases hok b rfl with ⟨reply, hreply⟩ | ⟨-, reason, hsink⟩
      · exact ⟨fun _ _ => hrendered ▸ hbytes, fun e he => (nomatch hreply.symm.trans he)⟩
      · exact absurd hsink (hnone reason)

theorem bytes_delivered (sink : Sink σ) (s : σ) (r : Outcome) :
    (delivered sink s r).bytes = (Meaning.onto [] r).2 := by
  cases r with
  | error e => rfl
  | ok b =>
    rw [delivered]
    split <;> rfl

/-- A delivery with an output ends well, or it fails with its sink and the output is not empty. -/
theorem result_delivered (sink : Sink σ) (s : σ) (b : Bytes) :
    (∃ reply, (delivered sink s (.ok b)).result = .ok reply) ∨
      b ≠ [] ∧ ∃ reason, (delivered sink s (.ok b)).result = .error (.error (.sink reason)) := by
  rw [delivered]
  split
  · next reason taken s' hwrite =>
    refine .inr ⟨?_, reason, rfl⟩
    rintro rfl
    rw [Sink.writeAll] at hwrite
    exact Option.some_ne_none _ (Prod.mk.inj hwrite).1.symm
  · exact .inl ⟨_, rfl⟩

/-- What a call means keeps its output in the buffer. -/
theorem Call.kept_meaning (E : Engine) (s : σ) : ∀ c : Call σ, c.Kept E (c.meaning E s)
  | .sprintf text vs => by
    refine kept_of_outcome (Meaning.inline_failsInRendering E vs text [])
      (E.replace_eq [] vs text) ?_ ?_ ?_
    · rw [meaning]
      cases Meaning.inline E vs text [] <;> rfl
    · intro e he
      rw [meaning, he]
    · intro b hb
      rw [meaning, hb]
      exact .inl ⟨_, rfl⟩
  | .fprintf sink text vs =>
    kept_of_outcome (Meaning.inline_failsInRendering E vs text []) (E.replace_eq [] vs text)
      (bytes_delivered sink s _) (fun e he => by rw [meaning, he]; rfl)
      fun b hb => by rw [meaning, hb]; exact result_delivered sink s b
  | .execute sink t vs =>
    kept_of_outcome (Meaning.template_failsInRendering E vs t []) (E.render_eq [] vs t)
      (bytes_delivered sink s _) (fun e he => by rw [meaning, he]; rfl)
      fun b hb => by rw [meaning, hb]; exact result_delivered sink s b

/-- After each call of a session on an idle printer its output is in the buffer. -/
theorem Idle.forall₂_kept {E : Engine} : ∀ {p : Printer} (calls : List (Call σ)) (s : σ),
    Idle E p → List.Forall₂ (fun c o => c.Kept E o) calls (p.session s calls).1
  | _, [], _, _ => .nil
  | p, c :: cs, s, hp => by
    obtain ⟨hseen, hidle⟩ := hp.run s c
    exact .cons (hseen ▸ Call.kept_meaning E s c) (Idle.forall₂_kept cs _ hidle)

/-- **What is in the buffer after each call.**  It is the output, when the call was rendered, and
nothing, when it failed in rendering, with the failure that the call returns.  So the buffer tells of
its call exactly when the sink did not fail: where it did, the call returns an error and the output
stays in the buffer. -/
theorem buffer_after_calls (E : Engine) (s : σ) (calls : List (Call σ)) :
    List.Forall₂ (fun c o => o.bytes = (c.rendered E).2 ∧
        (∀ e, (c.rendered E).1 = .error e → o.result = .error e ∧ o.bytes = []) ∧
        (c.Told E o ↔ ∀ reason, o.result ≠ .error (.error (.sink reason))))
      calls ((new E).session s calls).1 :=
  ((idle_new E).forall₂_kept calls s).imp fun _ _ h => ⟨h.bytes_eq, h.unrendered, h.told_iff⟩

end Printer

namespace Sample

/-- A call that writes to a sink which refuses all. -/
def refused : List (Printer.Call Sink.Meter) := [.fprintf Sink.metered "Hi".toList []]

/-- The call fails, and its output stays in the buffer. -/
theorem buffer_not_told_refused :
    Engine.build .standard = .ok Engine.plain ∧
      ((Printer.new Engine.plain).session ⟨some "disk full".toList, none, none⟩ refused).1 =
        [⟨.error (.error (.sink "disk full".toList)), [], ⟨some "disk full".toList, none, none⟩,
          Text.utf8 "Hi".toList⟩] ∧
      ¬ List.Forall₂ (fun c o => c.Told Engine.plain o) refused
        ((Printer.new Engine.plain).session ⟨some "disk full".toList, none, none⟩ refused).1 := by
  have hseen : ((Printer.new Engine.plain).session ⟨some "disk full".toList, none, none⟩
      refused).1 = [⟨.error (.error (.sink "disk full".toList)), [],
        ⟨some "disk full".toList, none, none⟩, Text.utf8 "Hi".toList⟩] := by decide +kernel
  refine ⟨rfl, hseen, fun htold => ?_⟩
  rw [hseen] at htold
  cases htold with
  | cons h _ =>
    have hempty : Text.utf8 "Hi".toList = [] := h.empty _ rfl
    exact absurd hempty (by decide)

end Sample
end Stencil
