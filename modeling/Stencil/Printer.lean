/-
# Printers

A printer renders into a buffer of its own and then writes the buffer to a sink, so that a sink
never sees the output of a call that fails in rendering.  It keeps its workspace from call to
call.

A sink answers each write with the number of bytes it took, or fails.  Writing goes on with the
rest until all is taken; a sink that takes nothing of a rest has failed.
-/
import Stencil.Render

namespace Stencil

/-- What a sink answers to a write. -/
inductive Answer
  | took (count : Nat)
  | failed (reason : Text)
deriving DecidableEq

/-- A sink with a state: offered bytes, it answers and changes its state. -/
abbrev Sink (σ : Type) := σ → Bytes → Answer × σ

namespace Sink

variable {σ : Type}

/-- Writes all of `rest`.  Gives the reason of a failure, if there was one, the bytes taken in
all, and the state of the sink. -/
def writeAll (sink : Sink σ) (s : σ) (rest : Bytes) : Option Text × Bytes × σ :=
  match rest with
  | [] => (none, [], s)
  | b :: bs =>
    match sink s (b :: bs) with
    | (.failed reason, s) => (some reason, [], s)
    | (.took 0, s) => (some "failed to write whole buffer".toList, [], s)
    | (.took (n + 1), s) =>
      let (failure, taken, s) := writeAll sink s (bs.drop n)
      (failure, b :: bs.take n ++ taken, s)
termination_by rest.length
decreasing_by simp only [List.length_cons, List.length_drop]; omega

/-- The state of a sink that takes a bounded number of bytes. -/
structure Meter where
  /-- Every write fails with this reason. -/
  failure : Option Text
  /-- At most so many bytes in one write. -/
  chunk : Option Nat
  /-- At most so many bytes from now on. -/
  room : Option Nat
deriving DecidableEq

/-- A sink that takes as much as its bounds allow. -/
def metered : Sink Meter := fun m offered =>
  match m.failure with
  | some reason => (.failed reason, m)
  | none =>
    let count := min (min offered.length (m.chunk.getD offered.length))
      (m.room.getD offered.length)
    (.took count, { m with room := m.room.map (· - count) })

end Sink

/-- A printer: an engine and a workspace for its calls. -/
structure Printer where
  engine : Engine
  workspace : Workspace

namespace Printer

/-- A new printer. -/
def new (E : Engine) : Printer := ⟨E, .ofOut []⟩

/-- The bytes in the buffer. -/
def bytes (p : Printer) : Bytes := p.workspace.out

/-- Clears the buffer and renders into it. -/
def fill (p : Printer) (act : Render Unit) : Except Failure Unit × Printer :=
  let (result, w) := Render.run act { p.workspace with out := [] }
  (result, { p with workspace := w })

/-- Renders a text; the buffer holds the output. -/
def sprintf (p : Printer) (s : Text) (vs : Bindings) : Except Failure Unit × Printer :=
  p.fill (Render.text p.engine vs s)

/-- What a call that writes to a sink leaves behind. -/
structure Written (σ : Type) where
  /-- The number of bytes of the output. -/
  result : Except Failure Nat
  /-- The bytes that the sink took. -/
  taken : Bytes
  sink : σ
  printer : Printer

variable {σ : Type}

/-- Renders into the buffer, and writes the buffer when that did not fail. -/
def deliver (p : Printer) (sink : Sink σ) (s : σ) (act : Render Unit) : Written σ :=
  match p.fill act with
  | (.error e, p) => ⟨.error e, [], s, p⟩
  | (.ok _, p) =>
    match sink.writeAll s p.bytes with
    | (some reason, taken, s) => ⟨.error (.error (.sink reason)), taken, s, p⟩
    | (none, taken, s) => ⟨.ok p.bytes.length, taken, s, p⟩

/-- Renders a text and writes it to a sink. -/
def fprintf (p : Printer) (sink : Sink σ) (s : σ) (text : Text) (vs : Bindings) : Written σ :=
  p.deliver sink s (Render.text p.engine vs text)

/-- Renders a template and writes it to a sink. -/
def execute (p : Printer) (sink : Sink σ) (s : σ) (t : Template) (vs : Bindings) : Written σ :=
  p.deliver sink s (Render.template p.engine vs t)

end Printer
end Stencil
