/-
# Rendering

A render call appends to the bytes of its caller.  It works in a `Workspace`: the output, two
buffers that pass a value from filter to filter, and the number of bound templates that are
open.  For each token:

1. its macro is resolved through the aliases, once (in text only: compiled tokens are resolved);
2. an expansion is rendered from its body, and its filters are ignored;
3. a macro on the skip list is echoed;
4. otherwise its first binding is written, or the default value; a bound template is rendered
   with the same bindings;
5. its filters are run over the bytes just written and replace them.

`atomic` makes a step all or nothing: after a failure the output is cut back to where it was
before the step.  A value with its filters is such a step, the body of an expansion is one,
and so is the whole call.
-/
import Stencil.Engine
import Stencil.Value

namespace Stencil

/-- How deeply bound templates may be nested. -/
def maxDepth : Nat := 32

/-- The state of a render call. -/
structure Workspace where
  /-- The output, starting with the bytes of the caller. -/
  out : Bytes
  /-- What the last filter wrote. -/
  held : Bytes
  /-- Where the next filter writes. -/
  spare : Bytes
  /-- The number of bound templates that are open. -/
  depth : Nat
deriving DecidableEq

/-- A workspace that was never used. -/
def Workspace.ofOut (out : Bytes) : Workspace := ⟨out, [], [], 0⟩

/-- A step of rendering: it changes the workspace, and can fail. -/
abbrev Render := EStateM Failure Workspace

namespace Render

/-- Appends bytes to the output. -/
def write (b : Bytes) : Render Unit := modify fun w => { w with out := w.out ++ b }

/-- Appends a text to the output. -/
def writeText (s : Text) : Render Unit := write s.utf8

/-- Fails with an error. -/
def fail (e : RenderError) : Render Unit := throw (.error e)

/-- Cuts the output back to its former length when `act` fails. -/
def atomic (act : Render Unit) : Render Unit := fun w =>
  match act w with
  | .ok u w' => .ok u w'
  | .error e w' => .error e { w' with out := w'.out.take w.out.length }

/-- Runs one filter.  The first filter of a chain reads the output from `offset` on, a later one
what the filter before it wrote. -/
def filterStep (filters : Registry) (offset : Nat) (first : Bool) (name : Text) : Render Unit :=
  fun w =>
    match filters.get? name with
    | none => .error (.error (.noFilter name (suggestions name filters.keys))) w
    | some f =>
      let e := f (if first then w.out.drop offset else w.held)
      match e.failure with
      | some reason => .error (.error (.filter name reason)) { w with spare := e.written }
      | none => .ok () { w with held := e.written, spare := w.held }

/-- Runs the rest of a chain, and then puts what the last filter wrote in the place of the
output from `offset` on. -/
def filterRest (filters : Registry) (offset : Nat) : List Text → Render Unit
  | [] => modify fun w => { w with out := w.out.take offset ++ w.held }
  | name :: names => do
    filterStep filters offset false name
    filterRest filters offset names

/-- Runs a chain of filters over the output from `offset` on. -/
def filterChain (filters : Registry) (offset : Nat) : List Text → Render Unit
  | [] => pure ()
  | name :: names => do
    filterStep filters offset true name
    filterRest filters offset names

/-- Appends what came of serialising a value that is bound to `name`. -/
def writeSerialised (name : Text) : Serialised → Render Unit
  | .ok b => write b
  | .missing => fail (.unbound name)
  | .failed b reason => do
    write b
    fail (.value name reason)
  | .unprintable => throw .unprintable

/-- Appends the bytes of a value, which is given the output so far. -/
def writeValue (name : Text) (v : Value) : Render Unit := do
  writeSerialised name (v.serialise (← get).out)

/-- Appends the binding of a macro or the default value.  `nested` renders a bound template. -/
def writeBinding (E : Engine) (vs : Bindings) (nested : Text → Template → Render Unit)
    (name : Text) : Render Unit :=
  match lookup? name vs, E.fallback with
  | some (.template t), _ => nested name t
  | some v, _ => writeValue name v
  | none, some fallback => writeText fallback
  | none, none => fail (.unbound name)

/-- Replaces a macro that is no expansion. -/
def replaceMacro (E : Engine) (vs : Bindings) (nested : Text → Template → Render Unit)
    (name suffix : Text) : Render Unit :=
  if E.skip.contains name then
    writeText (E.delimiters.echo name suffix)
  else
    atomic do
      let offset := (← get).out.length
      writeBinding E vs nested name
      filterChain E.filters offset (Token.filterNames suffix)

/-- Renders the body of an expansion. -/
def body (E : Engine) (vs : Bindings) (nested : Text → Template → Render Unit) :
    Body → Render Unit
  | .done s => writeText s
  | .token lead t rest => do
    writeText lead
    replaceMacro E vs nested t.name t.suffix
    body E vs nested rest
  | .expand lead _ b rest => do
    writeText lead
    atomic (body E vs nested b)
    body E vs nested rest

/-- Replaces a macro that is resolved. -/
def replaceResolved (E : Engine) (vs : Bindings) (nested : Text → Template → Render Unit)
    (name suffix : Text) : Render Unit :=
  match E.bodies.get? name with
  | some b => atomic (body E vs nested b)
  | none => replaceMacro E vs nested name suffix

/-- Renders chunks and a tail. -/
def chunks (E : Engine) (vs : Bindings) (nested : Text → Template → Render Unit) (tail : Text) :
    List Chunk → Render Unit
  | [] => writeText tail
  | c :: cs => do
    writeText c.lead
    replaceResolved E vs nested c.token.name c.token.suffix
    chunks E vs nested tail cs

/-- Closes a level that was opened before `act`, whether or not `act` fails. -/
def closing (act : Render Unit) : Render Unit := fun w =>
  match act w with
  | .ok u w' => .ok u { w' with depth := w'.depth - 1 }
  | .error e w' => .error e { w' with depth := w'.depth - 1 }

/-- Opens a level for the template bound to `name`, unless the limit is reached. -/
def nest (deeper : Template → Render Unit) (name : Text) (t : Template) : Render Unit := do
  if maxDepth ≤ (← get).depth then fail (.depth name maxDepth)
  else
    modify fun w => { w with depth := w.depth + 1 }
    closing (deeper t)

/-- Renders a bound template with at most so many levels open at a time.  `maxDepth` levels are
enough: the count in the workspace refuses to open more. -/
def level (E : Engine) (vs : Bindings) : Nat → Template → Render Unit
  | 0, _ => pure ()
  | n + 1, t => chunks E vs (nest (level E vs n)) t.tail t.chunks

/-- Renders a template bound to a macro one level deeper. -/
def bound (E : Engine) (vs : Bindings) : Text → Template → Render Unit :=
  nest (level E vs maxDepth)

/-- Renders a template. -/
def template (E : Engine) (vs : Bindings) (t : Template) : Render Unit :=
  chunks E vs (bound E vs) t.tail t.chunks

/-- Renders a text that is cut at its markers. -/
def segments (E : Engine) (vs : Bindings) : Segments → Render Unit
  | .tail s => writeText s
  | .unmatched position => fail (.parse ⟨E.delimiters.start, position⟩)
  | .token lead inner rest => do
    writeText lead
    let (name, suffix) := Token.split inner.trim
    replaceResolved E vs (bound E vs) (E.aliases.resolve name) suffix
    segments E vs rest

/-- Renders a text without compiling it. -/
def text (E : Engine) (vs : Bindings) (s : Text) : Render Unit :=
  segments E vs (E.delimiters.segments 0 s)

/-- The outcome of a render call and the workspace after it. -/
def run (act : Render Unit) (w : Workspace) : Except Failure Unit × Workspace :=
  match atomic act w with
  | .ok u w' => (.ok u, w')
  | .error e w' => (.error e, w')

end Render

namespace Engine

/-- Appends a rendered template to `out`. -/
def render (E : Engine) (out : Bytes) (t : Template) (vs : Bindings) :
    Except Failure Unit × Bytes :=
  let r := Render.run (Render.template E vs t) (.ofOut out)
  (r.1, r.2.out)

/-- Appends a rendered text to `out`. -/
def replace (E : Engine) (out : Bytes) (s : Text) (vs : Bindings) :
    Except Failure Unit × Bytes :=
  let r := Render.run (Render.text E vs s) (.ofOut out)
  (r.1, r.2.out)

/-- The output of a call as text. -/
def decoded : Except Failure Unit × Bytes → Except Failure Text
  | (.error e, _) => .error e
  | (.ok _, out) =>
    match Utf8.decode? out with
    | some s => .ok s
    | none => .error (.error .notUtf8)

/-- Renders a template as text. -/
def renderText (E : Engine) (t : Template) (vs : Bindings) : Except Failure Text :=
  decoded (E.render [] t vs)

/-- Renders a text as text. -/
def replaceText (E : Engine) (s : Text) (vs : Bindings) : Except Failure Text :=
  decoded (E.replace [] s vs)

end Engine
end Stencil
