/-
# Printers that are used again

A printer keeps its workspace from call to call: the buffer, the two buffers of the filters and the
count of open levels.  This file shows that no call notices what the calls before it left there,
whether they ended well or failed.

* `Printer.Call`, `Printer.Observation`: a call, and what can be seen of it.
* `Printer.session`: calls on one printer, one after the other.  `Printer.freshSession`: the same
  calls, each on a printer of its own.  In both of them the sinks keep their states.
* `Printer.Idle`: what holds between calls, no level is open.  A call on an idle printer is seen to
  do what it means, and leaves the printer idle (`Idle.run`).
* `Printer.session_like_fresh`: the sessions are the same to see.
-/
import Stencil.Printer
import Stencil.Proofs.Rendering

namespace Stencil
namespace Printer

/-! ## 1. Calls and sessions -/

/-- A call on a printer, with the sink that it writes to. -/
inductive Call (σ : Type)
  | sprintf (text : Text) (vs : Bindings)
  | fprintf (sink : Sink σ) (text : Text) (vs : Bindings)
  | execute (sink : Sink σ) (t : Template) (vs : Bindings)

/-- What a call returns when it ends well. -/
inductive Reply
  /-- The output. -/
  | output (b : Bytes)
  /-- The number of bytes of the output, which went to a sink. -/
  | count (n : Nat)
deriving DecidableEq

/-- What can be seen of a call. -/
structure Observation (σ : Type) where
  result : Except Failure Reply
  /-- The bytes that the sink took. -/
  taken : Bytes
  /-- The sink after the call. -/
  sink : σ
  /-- The buffer after the call. -/
  bytes : Bytes
deriving DecidableEq

variable {σ : Type}

/-- What is seen of a call that wrote to a sink. -/
def Written.observe (w : Written σ) : Observation σ :=
  ⟨w.result.map .count, w.taken, w.sink, w.printer.bytes⟩

/-- Runs a call on a printer, when the sinks are in state `s`. -/
def run (p : Printer) (s : σ) : Call σ → Observation σ × Printer
  | .sprintf text vs =>
    let (result, p) := p.sprintf text vs
    (⟨result.map fun _ => .output p.bytes, [], s, p.bytes⟩, p)
  | .fprintf sink text vs =>
    let w := p.fprintf sink s text vs
    (w.observe, w.printer)
  | .execute sink t vs =>
    let w := p.execute sink s t vs
    (w.observe, w.printer)

/-- Runs calls on one printer in turn. -/
def session (p : Printer) (s : σ) : List (Call σ) → List (Observation σ) × Printer
  | [] => ([], p)
  | c :: cs =>
    let (o, p) := p.run s c
    let (os, p) := session p o.sink cs
    (o :: os, p)

/-- Runs calls in turn, each on a new printer. -/
def freshSession (E : Engine) (s : σ) : List (Call σ) → List (Observation σ)
  | [] => []
  | c :: cs =>
    let o := ((new E).run s c).1
    o :: freshSession E o.sink cs

/-! ## 2. What calls mean -/

/-- What is seen of a call that comes to `r` and writes its output to a sink. -/
def delivered (sink : Sink σ) (s : σ) : Outcome → Observation σ
  | .error e => ⟨.error e, [], s, []⟩
  | .ok b =>
    match sink.writeAll s b with
    | (some reason, taken, s) => ⟨.error (.error (.sink reason)), taken, s, b⟩
    | (none, taken, s) => ⟨.ok (.count b.length), taken, s, b⟩

/-- What is seen of a call, by its meaning with no bytes before it: the printer has no part in it. -/
def Call.meaning (E : Engine) (s : σ) : Call σ → Observation σ
  | .sprintf text vs =>
    match Meaning.inline E vs text [] with
    | .error e => ⟨.error e, [], s, []⟩
    | .ok b => ⟨.ok (.output b), [], s, b⟩
  | .fprintf sink text vs => delivered sink s (Meaning.inline E vs text [])
  | .execute sink t vs => delivered sink s (Meaning.template E vs t [])

/-! ## 3. Idle printers -/

/-- A printer of `E` between two calls. -/
structure Idle (E : Engine) (p : Printer) : Prop where
  engine : p.engine = E
  depth : p.workspace.depth = 0

variable {E : Engine} {p : Printer} {act : Render Unit} {x : Writing}

theorem idle_new (E : Engine) : Idle E (new E) := ⟨rfl, rfl⟩

/-- Rendering fills the buffer of an idle printer, or empties it. -/
theorem Idle.fill (hp : Idle E p) (h : Render.Computes 0 act x) :
    (p.fill act).1 = (Meaning.onto [] (x [])).1 ∧
      (p.fill act).2.bytes = (Meaning.onto [] (x [])).2 ∧ Idle E (p.fill act).2 := by
  obtain ⟨hresult, hout, hdepth⟩ := h.run (w := { p.workspace with out := [] }) hp.depth
  exact ⟨hresult, hout, hp.engine, hdepth⟩

/-- Delivering writes the output of an idle printer to the sink. -/
theorem Idle.deliver (hp : Idle E p) (h : Render.Computes 0 act x) (sink : Sink σ) (s : σ) :
    (p.deliver sink s act).observe = delivered sink s (x []) ∧
      Idle E (p.deliver sink s act).printer := by
  obtain ⟨hresult, hbytes, hidle⟩ := hp.fill h
  unfold Printer.deliver
  generalize p.fill act = filled at hresult hbytes hidle ⊢
  obtain ⟨result, p'⟩ := filled
  generalize x [] = r at hresult hbytes ⊢
  cases r with
  | error e =>
    obtain rfl : result = .error e := hresult
    exact ⟨by simp [Written.observe, delivered, Except.map, hbytes, Meaning.onto], hidle⟩
  | ok b =>
    obtain rfl : result = .ok () := hresult
    have hb : p'.bytes = b := hbytes
    simp only [delivered, hb]
    generalize sink.writeAll s b = answer
    obtain ⟨failure, taken, s'⟩ := answer
    cases failure with
    | none => exact ⟨by simp [Written.observe, Except.map, hb], hidle⟩
    | some reason => exact ⟨by simp [Written.observe, Except.map, hb], hidle⟩

/-- **A call on an idle printer is seen to do what it means**, and leaves the printer idle. -/
theorem Idle.run (hp : Idle E p) (s : σ) : ∀ c : Call σ,
    (p.run s c).1 = c.meaning E s ∧ Idle E (p.run s c).2
  | .sprintf text vs => by
    have hact : Render.Computes 0 (Render.text p.engine vs text) (Meaning.inline E vs text) :=
      hp.engine ▸ Render.computes_text p.engine vs text
    obtain ⟨hresult, hbytes, hidle⟩ := hp.fill hact
    refine ⟨?_, hidle⟩
    simp only [Printer.run, Printer.sprintf, Call.meaning, hresult, hbytes]
    cases Meaning.inline E vs text [] with
    | error e => rfl
    | ok b => rfl
  | .fprintf sink text vs =>
    hp.deliver (hp.engine ▸ Render.computes_text p.engine vs text) sink s
  | .execute sink t vs =>
    hp.deliver (hp.engine ▸ Render.computes_template p.engine vs t) sink s

/-! ## 4. Sessions -/

/-- A session on an idle printer is seen as calls on new printers are, and leaves it idle. -/
theorem Idle.session : ∀ {p : Printer} (calls : List (Call σ)) (s : σ), Idle E p →
    (p.session s calls).1 = freshSession E s calls ∧ Idle E (p.session s calls).2
  | _, [], _, hp => ⟨rfl, hp⟩
  | p, c :: cs, s, hp => by
    obtain ⟨hseen, hidle⟩ := hp.run s c
    have hsame : ((new E).run s c).1 = (p.run s c).1 := ((idle_new E).run s c).1.trans hseen.symm
    obtain ⟨hrest, hlast⟩ := Idle.session cs (p.run s c).1.sink hidle
    refine ⟨?_, hlast⟩
    simp only [Printer.session, freshSession, hsame, hrest]

/-- **A printer that is used again is like a new one.**  What is seen of calls on one printer, in
any order and whether or not they fail, is what is seen of them on a new printer each; and between
them no level is open.  The engine, its filters and the sinks are arbitrary; a sink may keep all
that it was offered in its state. -/
theorem session_like_fresh (E : Engine) (s : σ) (calls : List (Call σ)) :
    ((new E).session s calls).1 = freshSession E s calls ∧
      ((new E).session s calls).2.workspace.depth = 0 := by
  obtain ⟨hseen, hidle⟩ := Idle.session calls s (idle_new E)
  exact ⟨hseen, hidle.depth⟩

end Printer

namespace Sample

/-- A template that is bound inside its own bindings. -/
def nested : Template := ⟨[⟨"<".toList, ⟨"nested".toList⟩⟩], ">".toList, .standard⟩

/-- Calls that fail at the deepest level, in a filter and in the sink, with others in between. -/
def calls : List (Printer.Call Sink.Meter) :=
  [.execute Sink.metered nested [("nested".toList, .template nested)],
    .fprintf Sink.metered "Hi $\x7bname\x7d".toList bindings,
    .sprintf "$\x7bname:upper:none\x7d".toList bindings,
    .execute Sink.metered note bindings,
    .sprintf "$\x7bname:upper\x7d".toList bindings]

/-- The sink has room for the second call, and for a part of the fourth. -/
example : (((Printer.new engine).session ⟨none, some 4, some 10⟩ calls).1.map fun o =>
      (o.result, o.taken)) =
    [(.error (.error (.depth "nested".toList 32)), []),
      (.ok (.count 6), Text.utf8 "Hi Ann".toList),
      (.error (.error (.noFilter "none".toList [])), []),
      (.error (.error (.sink "failed to write whole buffer".toList)), Text.utf8 "To: ".toList),
      (.ok (.output (Text.utf8 "ANN".toList)), [])] := by
  decide +kernel

end Sample
end Stencil
