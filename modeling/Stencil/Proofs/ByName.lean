/-
# Reading expansions by name

Linked bodies are finite trees, so whatever walks through them ends.  This file goes without them.
Expansions are looked up by name whenever a token names one, and bound templates are entered as they
are met, templates that are bound inside their own bindings among them; nothing in these recursions
gets smaller by itself.  They are given room instead: for so many expansions inside each other, and
for so many bound templates.  Where room runs out they give an answer of their own, and the results
below hold whatever this answer is, so it is never asked for.

* `ByName.enter`: a recursion with room.  One statement covers all of them (`enter_spec`): along a
  reference bodies get less deep, and none is as deep as there are expansions.
* `ByName.compile`, `ByName.source`, `ByName.template`, `ByName.text`: compiling, writing back and
  rendering by name, with `compile_eq`, `source_eq`, `computes_template` and `computes_text`.
* `Linking.search`: the depth-first walk that looks for circles, without bodies (`searchAll_eq`).
* `Engine.calls_end`: all of them end within their room, and come to what the engine comes to.
-/
import Stencil.Proofs.Cycles
import Stencil.Proofs.Rendering

namespace Stencil

namespace ByName

/-! ## 1. Recursions with room -/

section Enter

variable {α : Type} (stuck : α) (f : (Template → α) → Template → α)

/-- Enters a template with `f`, which in turn enters others, at most `room` inside each other.
`stuck` is the answer where there is no room. -/
def enter : Nat → Template → α
  | 0, _ => stuck
  | room + 1, t => f (enter room) t

variable {f} {E : Engine}

/-- **Room for the depth of a body is enough to enter it.**  What `f` does with a stored body may
rest on what entering the bodies it refers to does. -/
theorem enter_spec (hE : E.Linked) {P : Body → α → Prop}
    (hf : ∀ {next : Template → α} {name : Text} {b : Body}, E.bodies.get? name = some b →
      (∀ c ∈ b.chunks, ∀ b', E.bodies.get? c.token.name = some b' →
        P b' (next (b'.template E.delimiters))) → P b (f next (b.template E.delimiters))) :
    ∀ {room : Nat} {name : Text} {b : Body}, E.bodies.get? name = some b → b.depth < room →
      P b (enter stuck f room (b.template E.delimiters)) := by
  intro room
  induction room with
  | zero =>
    intro name b _ hroom
    exact absurd hroom (Nat.not_lt_zero _)
  | succ room ih =>
    intro name b hb hroom
    refine hf hb fun c hc b' hb' => ih hb' ?_
    have hlt : b'.depth < b.depth := Body.depth_lt_of_mem (hE hb) hc hb'
    omega

end Enter

/-! ## 2. Compiling -/

section Compile

variable (E : Engine)

/-- What is left of waiting text: chunks, and the text that waits after them.  `none` where there
was no room. -/
abbrev Splicing := Text → Option (List Chunk × Text)

/-- A resolved macro after waiting text: a chunk, or what its expansion leaves. -/
def pushMacro (next : Template → Splicing) (name suffix : Text) : Splicing := fun pending =>
  match E.expansion? name with
  | none => some ([⟨pending, Token.make name (Token.filterNames suffix)⟩], [])
  | some d => next d pending

/-- Chunks and a tail after waiting text. -/
def pushChunks (next : Template → Splicing) (tail : Text) : List Chunk → Splicing
  | [], pending => some ([], pending ++ tail)
  | c :: cs, pending => do
    let first ← pushMacro E next c.token.name c.token.suffix (pending ++ c.lead)
    let more ← pushChunks next tail cs first.2
    some (first.1 ++ more.1, more.2)

/-- Splices an expansion in, with room for so many inside each other. -/
def splice : Nat → Template → Splicing :=
  enter (fun _ => none) fun next d => pushChunks E next d.tail d.chunks

/-- Compiles segments after waiting text. -/
def compileSegments (room : Nat) : Segments → Text →
    Option (Except Unmatched (List Chunk × Text))
  | .tail s, pending => some (.ok ([], pending ++ s))
  | .unmatched position, _ => some (.error ⟨E.delimiters.start, position⟩)
  | .token lead body rest, pending => do
    let (written, suffix) := Token.split body.trim
    let first ← pushMacro E (splice E room) (E.aliases.resolve written) suffix (pending ++ lead)
    match ← compileSegments room rest first.2 with
    | .error e => some (.error e)
    | .ok more => some (.ok (first.1 ++ more.1, more.2))

/-- Compiles a text. -/
def compile (room : Nat) (s : Text) : Option (Except Unmatched Template) :=
  (compileSegments E room (E.delimiters.segments 0 s) []).map fun r =>
    r.map fun parts => ⟨parts.1, parts.2, E.delimiters⟩

end Compile

/-! ## 3. Writing back -/

section Source

variable (E : Engine)

/-- Chunks and a tail in written form; `next` writes expansions. -/
def writeChunks (next : Template → Option Text) (tail : Text) : List Chunk → Option Text
  | [] => some tail
  | c :: cs => do
    let first ←
      match E.expansion? c.token.name with
      | some d => next d
      | none => some (E.delimiters.placeholder c.token.text)
    let more ← writeChunks next tail cs
    some (c.lead ++ first ++ more)

/-- A template in written form. -/
def source (room : Nat) (t : Template) : Option Text :=
  writeChunks E (enter none (fun next d => writeChunks E next d.tail d.chunks) room) t.tail t.chunks

end Source

/-! ## 4. Rendering -/

section Render

open Render

variable (E : Engine) (vs : Bindings) (stuck : Render Unit)

/-- Replaces a resolved macro; `next` renders expansions and `nested` bound templates. -/
def renderMacro (nested : Text → Template → Render Unit) (next : Template → Render Unit)
    (name suffix : Text) : Render Unit :=
  match E.expansion? name with
  | some d => atomic (next d)
  | none => replaceMacro E vs nested name suffix

/-- Renders chunks and a tail. -/
def renderChunks (nested : Text → Template → Render Unit) (next : Template → Render Unit)
    (tail : Text) : List Chunk → Render Unit
  | [] => writeText tail
  | c :: cs => do
    writeText c.lead
    renderMacro E vs nested next c.token.name c.token.suffix
    renderChunks nested next tail cs

/-- Renders an expansion, with room for so many inside each other. -/
def expand (nested : Text → Template → Render Unit) : Nat → Template → Render Unit :=
  enter stuck fun next d => renderChunks E vs nested next d.tail d.chunks

/-- Renders a template at one level, with `nested` for the templates bound in it. -/
def level (room : Nat) (nested : Text → Template → Render Unit) (t : Template) : Render Unit :=
  renderChunks E vs nested (expand E vs stuck nested room) t.tail t.chunks

/-- Renders a bound template, with room for so many levels inside each other. -/
def bound (room levels : Nat) : Text → Template → Render Unit :=
  nest (enter stuck (fun deeper => level E vs stuck room (nest deeper)) levels)

/-- Renders a template, with room for so many expansions at each level, and for so many levels. -/
def template (room levels : Nat) (t : Template) : Render Unit :=
  level E vs stuck room (bound E vs stuck room levels) t

/-- Renders a text that is cut at its markers. -/
def renderSegments (nested : Text → Template → Render Unit) (next : Template → Render Unit) :
    Segments → Render Unit
  | .tail s => writeText s
  | .unmatched position => fail (.parse ⟨E.delimiters.start, position⟩)
  | .token lead inner rest => do
    writeText lead
    let (name, suffix) := Token.split inner.trim
    renderMacro E vs nested next (E.aliases.resolve name) suffix
    renderSegments nested next rest

/-- Renders a text. -/
def text (room levels : Nat) (s : Text) : Render Unit :=
  let nested := bound E vs stuck room levels
  renderSegments E vs nested (expand E vs stuck nested room) (E.delimiters.segments 0 s)

end Render

/-! ## 5. Room is enough -/

/-- Looking an expansion up gives its body, as it was written. -/
theorem expansion?_of_get? {E : Engine} {name : Text} {b : Body} (h : E.bodies.get? name = some b) :
    E.expansion? name = some (b.template E.delimiters) := by
  rw [Engine.expansion?, h, Option.map_some]

theorem expansion?_of_get?_none {E : Engine} {name : Text} (h : E.bodies.get? name = none) :
    E.expansion? name = none := by
  rw [Engine.expansion?, h, Option.map_none]

section Compile

variable {E : Engine} {next : Template → Splicing}

/-- A token that is written as it would be made again. -/
def Canonical (t : Token) : Prop := Token.make t.name (Token.filterNames t.suffix) = t

/-- The chunks of a linked body leave what the body leaves. -/
theorem pushChunks_eq : ∀ {b : Body}, b.Linked E.bodies → (∀ c ∈ b.chunks, Canonical c.token) →
    (∀ c ∈ b.chunks, ∀ b', E.bodies.get? c.token.name = some b' →
      ∀ pending, next (b'.template E.delimiters) pending = some (b'.splice pending)) →
    ∀ pending, pushChunks E next b.tail b.chunks pending = some (b.splice pending)
  | .done s, _, _, _, pending => rfl
  | .token lead t rest, ⟨ht, hrest⟩, hcanon, hnext, pending => by
    have hmade : Token.make t.name (Token.filterNames t.suffix) = t :=
      hcanon ⟨lead, t⟩ List.mem_cons_self
    have hmore := pushChunks_eq hrest (fun c hc => hcanon c (List.mem_cons_of_mem _ hc))
      (fun c hc => hnext c (List.mem_cons_of_mem _ hc)) []
    simp only [Body.chunks, Body.tail, pushChunks, pushMacro, expansion?_of_get?_none ht, hmade,
      Option.bind_eq_bind, Option.bind_some, hmore]
    rfl
  | .expand lead t b rest, ⟨ht, hrest⟩, hcanon, hnext, pending => by
    have hinner := hnext ⟨lead, t⟩ List.mem_cons_self b ht (pending ++ lead)
    have hmore := pushChunks_eq hrest (fun c hc => hcanon c (List.mem_cons_of_mem _ hc))
      (fun c hc => hnext c (List.mem_cons_of_mem _ hc)) (b.splice (pending ++ lead)).2
    simp only [Body.chunks, Body.tail, pushChunks, pushMacro, expansion?_of_get? ht, hinner,
      Option.bind_eq_bind, Option.bind_some, hmore]
    rfl

/-- Splicing by name is splicing the linked body. -/
theorem splice_eq (hE : E.Linked)
    (hcanon : ∀ ⦃name b⦄, E.bodies.get? name = some b → ∀ c ∈ b.chunks, Canonical c.token)
    {room : Nat} {name : Text} {b : Body} (hb : E.bodies.get? name = some b)
    (hroom : b.depth < room) (pending : Text) :
    splice E room (b.template E.delimiters) pending = some (b.splice pending) := by
  have hspec := enter_spec (fun _ => none) hE
    (f := fun next d => pushChunks E next d.tail d.chunks)
    (P := fun b g => ∀ pending, g pending = some (b.splice pending))
    (fun hb hnext => pushChunks_eq (hE hb) (hcanon hb) hnext) hb hroom
  exact hspec pending

/-- Segments are compiled by name as they are with linked bodies. -/
theorem compileSegments_eq {room : Nat}
    (hsplice : ∀ {name b}, E.bodies.get? name = some b → ∀ pending,
      splice E room (b.template E.delimiters) pending = some (b.splice pending)) :
    ∀ (segs : Segments) (pending : Text),
      compileSegments E room segs pending = some (E.compileSegments pending segs)
  | .tail s, pending => rfl
  | .unmatched position, pending => rfl
  | .token lead body rest, pending => by
    simp only [compileSegments, Engine.compileSegments, pushMacro]
    cases hb : E.bodies.get? (E.aliases.resolve (Token.split body.trim).1) with
    | none =>
      simp only [expansion?_of_get?_none hb, Option.bind_eq_bind, Option.bind_some,
        compileSegments_eq hsplice rest]
      cases E.compileSegments [] rest with
      | error e => rfl
      | ok more => rfl
    | some b =>
      simp only [expansion?_of_get? hb, Option.bind_eq_bind, Option.bind_some, hsplice hb,
        compileSegments_eq hsplice rest]
      cases E.compileSegments (b.splice (pending ++ lead)).2 rest with
      | error e => rfl
      | ok more => rfl

end Compile

section Source

variable {E : Engine} {next : Template → Option Text}

/-- The written form of a template, when expansions are written as their bodies. -/
theorem writeChunks_eq (tail : Text) : ∀ {cs : List Chunk},
    (∀ c ∈ cs, ∀ b, E.bodies.get? c.token.name = some b →
      next (b.template E.delimiters) = some (b.source E.delimiters)) →
    writeChunks E next tail cs = some (cs.flatMap E.chunkSource ++ tail)
  | [], _ => rfl
  | c :: cs, hnext => by
    have hmore := writeChunks_eq tail fun c' hc' => hnext c' (List.mem_cons_of_mem _ hc')
    cases hb : E.bodies.get? c.token.name with
    | none =>
      simp [writeChunks, expansion?_of_get?_none hb, hmore, Engine.chunkSource, hb]
    | some b =>
      have hfirst := hnext c List.mem_cons_self b hb
      simp [writeChunks, expansion?_of_get? hb, hfirst, hmore, Engine.chunkSource, hb]

/-- A linked body is written as its template. -/
theorem source_template : ∀ {b : Body}, b.Linked E.bodies →
    b.chunks.flatMap E.chunkSource ++ b.tail = b.source E.delimiters
  | .done _, _ => rfl
  | .token lead t rest, ⟨ht, hrest⟩ => by
    simp [Body.chunks, Body.tail, Body.source, Engine.chunkSource, ht, source_template hrest]
  | .expand lead t b rest, ⟨ht, hrest⟩ => by
    simp [Body.chunks, Body.tail, Body.source, Engine.chunkSource, ht, source_template hrest]

end Source

section Render

open Render

variable {E : Engine} {vs : Bindings} {stuck : Render Unit} {d room : Nat}
  {nested : Text → Template → Render Unit} {meaning : Text → Template → Writing}
  {next : Template → Render Unit}

theorem computes_renderMacro (hn : ∀ name t, Computes d (nested name t) (meaning name t))
    {name : Text} (hnext : ∀ b, E.bodies.get? name = some b →
      Computes d (next (b.template E.delimiters)) (Meaning.body E vs meaning b)) (suffix : Text) :
    Computes d (renderMacro E vs nested next name suffix)
      (Meaning.token E vs meaning name suffix) := by
  unfold renderMacro Meaning.token
  cases hb : E.bodies.get? name with
  | none =>
    rw [expansion?_of_get?_none hb]
    exact computes_replaceMacro hn name suffix
  | some b =>
    rw [expansion?_of_get? hb]
    exact (hnext b hb).atomic

theorem computes_renderChunks (hn : ∀ name t, Computes d (nested name t) (meaning name t))
    (tail : Text) : ∀ {cs : List Chunk},
    (∀ c ∈ cs, ∀ b, E.bodies.get? c.token.name = some b →
      Computes d (next (b.template E.delimiters)) (Meaning.body E vs meaning b)) →
    Computes d (renderChunks E vs nested next tail cs) (Meaning.chunks E vs meaning tail cs)
  | [], _ => computes_writeText tail
  | c :: cs, hnext => by
    have hfirst := computes_renderMacro hn (hnext c List.mem_cons_self) c.token.suffix
    have hmore := computes_renderChunks hn tail fun c' hc' => hnext c' (List.mem_cons_of_mem _ hc')
    exact (computes_writeText c.lead).seq (hfirst.seq hmore)

/-- An expansion that is rendered by name means its body. -/
theorem computes_expand (hE : E.Linked)
    (hn : ∀ name t, Computes d (nested name t) (meaning name t)) {name : Text} {b : Body}
    (hb : E.bodies.get? name = some b) (hroom : b.depth < room) :
    Computes d (expand E vs stuck nested room (b.template E.delimiters))
      (Meaning.body E vs meaning b) := by
  refine enter_spec stuck hE
    (f := fun next d => renderChunks E vs nested next d.tail d.chunks)
    (P := fun b act => Computes d act (Meaning.body E vs meaning b)) ?_ hb hroom
  intro next name b hb hnext
  rw [Meaning.body_eq_chunks (hE hb)]
  exact computes_renderChunks hn b.tail hnext

/-- One level of rendering by name. -/
theorem computes_level (hE : E.Linked)
    (hroom : ∀ ⦃name b⦄, E.bodies.get? name = some b → b.depth < room)
    (hn : ∀ name t, Computes d (nested name t) (meaning name t)) (t : Template) :
    Computes d (level E vs stuck room nested t) (Meaning.chunks E vs meaning t.tail t.chunks) :=
  computes_renderChunks hn t.tail fun _ _ _ hb => computes_expand hE hn hb (hroom hb)

/-- **The levels that are not open are the room that is left.** -/
theorem computes_bound (hE : E.Linked)
    (hroom : ∀ ⦃name b⦄, E.bodies.get? name = some b → b.depth < room) :
    ∀ {levels d : Nat}, levels + d = maxDepth → ∀ name t,
      Computes d (bound E vs stuck room levels name t) (Meaning.bound E vs levels name t)
  | 0, d, h, name, t => by
    obtain rfl : d = maxDepth := by omega
    exact computes_nest_full _ name t
  | levels + 1, d, h, name, t => by
    have hdeeper := computes_bound hE hroom (by omega : levels + (d + 1) = maxDepth)
    exact computes_nest (by omega) (computes_level hE hroom hdeeper t) name

theorem computes_template (hE : E.Linked)
    (hroom : ∀ ⦃name b⦄, E.bodies.get? name = some b → b.depth < room) (t : Template) :
    Computes 0 (template E vs stuck room maxDepth t) (Meaning.template E vs t) :=
  computes_level hE hroom (computes_bound hE hroom rfl) t

theorem computes_renderSegments (hn : ∀ name t, Computes d (nested name t) (meaning name t))
    (hnext : ∀ name b, E.bodies.get? name = some b →
      Computes d (next (b.template E.delimiters)) (Meaning.body E vs meaning b)) :
    ∀ segs : Segments,
      Computes d (renderSegments E vs nested next segs) (Meaning.segments E vs meaning segs)
  | .tail s => computes_writeText s
  | .unmatched _ => computes_fail _
  | .token lead inner rest => by
    have hfirst := computes_renderMacro hn (hnext (E.aliases.resolve (Token.split inner.trim).1))
      (Token.split inner.trim).2
    exact (computes_writeText lead).seq (hfirst.seq (computes_renderSegments hn hnext rest))

theorem computes_text (hE : E.Linked)
    (hroom : ∀ ⦃name b⦄, E.bodies.get? name = some b → b.depth < room) (s : Text) :
    Computes 0 (text E vs stuck room maxDepth s) (Meaning.inline E vs s) := by
  have hn : ∀ name t, Computes 0 (bound E vs stuck room maxDepth name t)
      (Meaning.bound E vs maxDepth name t) := computes_bound hE hroom rfl
  exact computes_renderSegments hn (fun _ _ hb => computes_expand hE hn hb (hroom hb)) _

end Render

end ByName

/-! ## 6. The walk that looks for circles -/

namespace Linking

variable {defs : Dict Template}

/-- What a walk comes to: the names that are finished, or a circle; `none` where there was no
room. -/
abbrev Verdict := Option (Except (List Text) (List Text))

/-- Goes on when a walk has found no circle. -/
def Verdict.andThen (next : List Text → Verdict) : Verdict → Verdict
  | some (.ok done) => next done
  | fault => fault

/-- Walks from some names in turn. -/
def searchNames (walk : Text → List Text → Verdict) : List Text → List Text → Verdict
  | [], done => some (.ok done)
  | name :: names, done => (walk name done).andThen (searchNames walk names)

/-- Walks depth first from `name`, with a path of open names and a set of finished ones. -/
def search (defs : Dict Template) : Nat → List Text → Text → List Text → Verdict
  | room, path, name, done =>
    if done.contains name then some (.ok done)
    else if path.contains name then some (.error (chain path name))
    else
      match defs.get? name, room with
      | none, _ => some (.ok done)
      | some _, 0 => none
      | some t, room + 1 =>
        (searchNames (search defs room (name :: path)) (t.tokens.map Token.name) done).andThen
          fun done => some (.ok (name :: done))

/-- Walks from all names, with room for as many open ones as there are. -/
def searchAll (defs : Dict Template) : Verdict :=
  searchNames (search defs defs.size []) defs.keys []

/-- The finished names are those with a finished body. -/
def Same (finished : List Text) (done : Dict Body) : Prop :=
  ∀ name, name ∈ finished ↔ name ∈ done.keys

theorem Same.insert {finished : List Text} {done : Dict Body} (h : Same finished done) (name : Text)
    (b : Body) : Same (name :: finished) (done.insert name b) := by
  intro n
  rw [List.mem_cons, h n, Dict.mem_keys_iff, Dict.mem_keys_iff]
  simp only [Dict.get?_insert]
  by_cases hn : name = n
  · simp [hn]
  · simp [hn, Ne.symm hn]

/-- The walk and the visit come to the same: the same circle, or the same finished names. -/
inductive Agrees {β : Type} (names : β → Dict Body) : Except (List Text) β → Verdict → Prop
  | error (chain : List Text) : Agrees names (.error chain) (some (.error chain))
  | ok {r : β} {finished : List Text} (h : Same finished (names r)) :
      Agrees names (.ok r) (some (.ok finished))

section Agrees

variable {β γ : Type} {names : β → Dict Body} {names' : γ → Dict Body}
  {visited : Except (List Text) β} {walked : Verdict}

/-- What agrees goes on in agreement, or has stopped at the same circle. -/
theorem Agrees.bind {f : β → Except (List Text) γ} {next : List Text → Verdict}
    (h : Agrees names visited walked)
    (hnext : ∀ r {finished}, Same finished (names r) → Agrees names' (f r) (next finished)) :
    Agrees names' (visited >>= f) (walked.andThen next) := by
  cases h with
  | error chain => exact .error chain
  | ok hsame => exact hnext _ hsame

/-- Only the finished names count for agreement. -/
theorem Agrees.map {f : β → γ} (h : Agrees names visited walked)
    (hf : ∀ r, names' (f r) = names r) : Agrees names' (visited.map f) walked := by
  cases h with
  | error chain => exact .error chain
  | @ok r _ hsame => exact .ok ((hf r).symm ▸ hsame)

end Agrees

/-- Linking the first of some chunks, and then the others. -/
theorem linkChunks_cons
    (v : Text → Dict Body → Except (List Text) (Option Body × Dict Body)) (tail : Text) (c : Chunk)
    (cs : List Chunk) (done : Dict Body) :
    linkChunks v tail (c :: cs) done = v c.token.name done >>= fun found =>
      (linkChunks v tail cs found.2).map fun r =>
        (found.1.elim (.token c.lead c.token r.1) (.expand c.lead c.token · r.1), r.2) := by
  rw [linkChunks]
  cases v c.token.name done with
  | error chain => rfl
  | ok found =>
    obtain ⟨body, done⟩ := found
    cases h : linkChunks v tail cs done with
    | error chain => simp [bind, Except.bind, Except.map, h]
    | ok rest =>
      cases body with
      | none => simp [bind, Except.bind, Except.map, h]
      | some b => simp [bind, Except.bind, Except.map, h]

/-- Visiting a name that is neither finished nor open. -/
theorem visit_of_get? {room : Nat} {path : List Text} {name : Text} {done : Dict Body}
    {t : Template} (hdone : done.get? name = none) (hpath : name ∉ path)
    (ht : defs.get? name = some t) :
    visit defs (room + 1) path name done =
      linkChunks (visit defs room (name :: path)) t.tail t.chunks done >>= fun linked =>
        .ok (some linked.1, linked.2.insert name linked.1) := by
  conv_lhs => unfold visit
  simp only [hdone, if_neg hpath, ht]
  cases linkChunks (visit defs room (name :: path)) t.tail t.chunks done <;> rfl

/-- Visiting the first of some names, and then the others. -/
theorem visitAll_cons (name : Text) (names : List Text) (done : Dict Body) :
    visitAll defs (name :: names) done =
      visit defs defs.size [] name done >>= fun found => visitAll defs names found.2 := by
  rw [visitAll]
  cases visit defs defs.size [] name done <;> rfl

/-- Walking from the macros of chunks agrees with linking them, when each walk agrees with its
visit. -/
theorem searchNames_agrees (tail : Text) {walk : Text → List Text → Verdict}
    {v : Text → Dict Body → Except (List Text) (Option Body × Dict Body)}
    (hv : ∀ name {finished done}, Same finished done →
      Agrees Prod.snd (v name done) (walk name finished)) :
    ∀ (cs : List Chunk) {finished : List Text} {done : Dict Body}, Same finished done →
      Agrees Prod.snd (linkChunks v tail cs done)
        (searchNames walk (cs.map fun c => c.token.name) finished)
  | [], _, _, h => .ok h
  | c :: cs, _, _, h => by
    rw [linkChunks_cons]
    refine (hv c.token.name h).bind fun found _ hsame => ?_
    exact (searchNames_agrees tail hv cs hsame).map fun _ => rfl

/-- **A walk agrees with the visit of the same name**, as long as there is room for the names that
are not open. -/
theorem search_agrees {room : Nat} {path : List Text} (hroom : Room defs room path) (name : Text)
    {finished : List Text} {done : Dict Body} (h : Same finished done) :
    Agrees Prod.snd (visit defs room path name done) (search defs room path name finished) := by
  unfold search
  simp only [List.contains_iff_mem]
  by_cases hfinished : name ∈ finished
  · obtain ⟨b, hb⟩ := Dict.mem_keys_iff.mp ((h name).mp hfinished)
    unfold visit
    rw [if_pos hfinished, hb]
    exact .ok h
  · have hdone : done.get? name = none := by
      refine Option.eq_none_iff_forall_ne_some.mpr fun b hb => hfinished ?_
      exact (h name).mpr (Dict.mem_keys_iff.mpr ⟨b, hb⟩)
    rw [if_neg hfinished]
    by_cases hpath : name ∈ path
    · unfold visit
      simp only [hdone, if_pos hpath]
      exact .error _
    · rw [if_neg hpath]
      cases ht : defs.get? name with
      | none =>
        unfold visit
        simp only [hdone, if_neg hpath, ht]
        exact .ok h
      | some t =>
        obtain ⟨n, rfl, hroom'⟩ := hroom.open_of_get? hpath ht
        have htokens : t.tokens.map Token.name = t.chunks.map fun c => c.token.name := by
          simp [Template.tokens]
        rw [visit_of_get? hdone hpath ht]
        simp only [htokens]
        refine (searchNames_agrees t.tail ?_ t.chunks h).bind fun linked _ hsame => ?_
        · exact fun next _ _ hsame => search_agrees hroom' next hsame
        · exact .ok (hsame.insert name linked.1)
termination_by room

/-- Walking from names in turn agrees with visiting them. -/
theorem searchNames_agrees_visitAll : ∀ (names : List Text) {finished : List Text}
    {done : Dict Body}, Same finished done →
      Agrees id (visitAll defs names done) (searchNames (search defs defs.size []) names finished)
  | [], _, _, h => .ok h
  | name :: names, _, _, h => by
    have hroom : Room defs defs.size [] := ⟨.nil, by simp, by simp⟩
    rw [visitAll_cons]
    exact (search_agrees hroom name h).bind fun _ _ hsame => searchNames_agrees_visitAll names hsame

/-- **The walk ends**, on every set of templates, and finds the circle that linking reports. -/
theorem searchAll_eq (defs : Dict Template) :
    ∃ finished, searchAll defs = some ((linkAll defs).map fun _ => finished) := by
  have hsame : Same [] (.empty : Dict Body) := by
    intro name
    simp [Dict.mem_keys_iff]
  have hagrees : Agrees id (visitAll defs defs.keys .empty)
      (searchNames (search defs defs.size []) defs.keys []) :=
    searchNames_agrees_visitAll defs.keys hsame
  unfold searchAll linkAll
  generalize visitAll defs defs.keys .empty = linked at hagrees ⊢
  generalize searchNames (search defs defs.size []) defs.keys [] = walked at hagrees ⊢
  cases hagrees with
  | error chain => exact ⟨[], rfl⟩
  | @ok _ finished _ => exact ⟨finished, rfl⟩

end Linking

/-! ## 7. Built engines -/

/-- A key stands in a dictionary once. -/
theorem Dict.nodup_keys {α : Type} (d : Dict α) : d.keys.Nodup := by
  refine List.pairwise_map.mpr (d.ascending.imp fun hlt he => ?_)
  exact List.lt_irrefl _ (he ▸ hlt)

namespace Engine

variable {s : Settings} {E : Engine}

/-- A resolved token is canonical. -/
theorem canonical_resolveToken (E : Engine) (body : Text) :
    ByName.Canonical (E.resolveToken body) := by
  unfold ByName.Canonical
  rw [E.name_resolveToken, E.suffix_resolveToken, Token.filterNames_canonical]
  rfl

/-- What is stored for a name is its declared text, read once. -/
theorem readsAs_of_get? (h : build s = .ok E) {name : Text} {b : Body}
    (hb : E.bodies.get? name = some b) :
    ∃ text, s.expansions.texts.get? name = some text ∧
      E.ReadsAs text (b.template E.delimiters) := by
  have hreads := readsAs_of_build h name
  rw [ByName.expansion?_of_get? hb] at hreads
  split at hreads
  · contradiction
  · next text htext =>
    obtain ⟨d, hd, hread⟩ := hreads
    exact ⟨text, htext, Option.some.inj hd ▸ hread⟩

/-- The tokens of stored bodies are canonical. -/
theorem canonical_of_build (h : build s = .ok E) ⦃name : Text⦄ ⦃b : Body⦄
    (hb : E.bodies.get? name = some b) : ∀ c ∈ b.chunks, ByName.Canonical c.token := by
  intro c hc
  obtain ⟨text, -, hread⟩ := readsAs_of_get? h hb
  obtain ⟨parts, rest, -, htokens⟩ := tokens_of_readsAs hread
  have hmem : c.token ∈ (b.template E.delimiters).tokens := List.mem_map_of_mem hc
  rw [htokens] at hmem
  obtain ⟨p, -, hp⟩ := List.mem_map.mp hmem
  rw [← hp]
  exact E.canonical_resolveToken p.2

/-- **Expansions are nested less deep than they are declared.** -/
theorem depth_lt_of_build (h : build s = .ok E) ⦃name : Text⦄ ⦃b : Body⦄
    (hb : E.bodies.get? name = some b) : b.depth < s.expansions.size := by
  have hsubset : E.bodies.keys ⊆ s.expansions.texts.keys := by
    intro n hn
    obtain ⟨b', hb'⟩ := Dict.mem_keys_iff.mp hn
    obtain ⟨text, htext, -⟩ := readsAs_of_get? h hb'
    exact Dict.mem_keys_iff.mpr ⟨text, htext⟩
  have hle := (List.subperm_of_subset E.bodies.nodup_keys hsubset).length_le
  simp only [Dict.keys, List.length_map] at hle
  exact Nat.lt_of_lt_of_le (Body.depth_lt_size (linked_of_build h) hb) hle

/-- **Calls end.**  An engine compiles, writes back and renders what the recursions by name come to
that have room for as many expansions inside each other as were declared, at each of `maxDepth`
levels of bound templates below the first.  They never ask for more: a recursion that runs out of
room fails, or gives whatever `stuck` does, and `stuck` is arbitrary.  The texts, templates and
bindings are arbitrary, too.  The walk that looks for circles ends on all templates, with room for
as many open names as there are. -/
theorem calls_end (h : build s = .ok E) :
    (∀ source, ByName.compile E s.expansions.size source = some (E.compile source)) ∧
      (∀ t, ByName.source E s.expansions.size t = some (E.source t)) ∧
      (∀ stuck vs out,
        (∀ t, (Render.run (ByName.template E vs stuck s.expansions.size maxDepth t)
            (.ofOut out)).map id Workspace.out = E.render out t vs) ∧
          ∀ text, (Render.run (ByName.text E vs stuck s.expansions.size maxDepth text)
            (.ofOut out)).map id Workspace.out = E.replace out text vs) ∧
      (∀ name b, E.bodies.get? name = some b → b.depth < s.expansions.size) ∧
      ∀ defs, ∃ finished,
        Linking.searchAll defs = some ((Linking.linkAll defs).map fun _ => finished) := by
  have hE := linked_of_build h
  have hroom := depth_lt_of_build h
  refine ⟨fun source => ?_, fun t => ?_, fun stuck vs out => ⟨fun t => ?_, fun text => ?_⟩,
    fun _ _ hb => hroom hb, Linking.searchAll_eq⟩
  · have hsplice := fun {name b} (hb : E.bodies.get? name = some b) =>
      ByName.splice_eq hE (canonical_of_build h) hb (hroom hb)
    rw [ByName.compile, ByName.compileSegments_eq hsplice, Engine.compile]
    cases E.compileSegments [] (E.delimiters.segments 0 source) with
    | error e => rfl
    | ok r => rfl
  · refine ByName.writeChunks_eq t.tail fun c _ b hb => ?_
    refine ByName.enter_spec none hE
      (P := fun b r => r = some (b.source E.delimiters)) ?_ hb (hroom hb)
    intro next name b hb hnext
    rw [← ByName.source_template (hE hb)]
    exact ByName.writeChunks_eq b.tail hnext
  · rw [render_eq]
    exact (ByName.computes_template hE hroom t).call out [] []
  · rw [replace_eq]
    exact (ByName.computes_text hE hroom text).call out [] []

end Engine

namespace Sample

/-- A template that is bound inside its own bindings, and names an expansion. -/
def echoing : Template :=
  ⟨[⟨[], ⟨"letter".toList⟩⟩, ⟨", ".toList, ⟨"echo".toList⟩⟩], [], .standard⟩

def echoes : Bindings := [("name".toList, .string "Ann".toList), ("echo".toList, .template echoing)]

theorem calls_end_echoing : Engine.build settings = .ok engine ∧
    ByName.compile engine 2 circular = some (engine.compile circular) ∧
    ByName.source engine 2 echoing
      = some "Hello, $\x7bname:upper\x7d! $\x7bsecret\x7d, $\x7becho\x7d".toList ∧
    (∀ stuck, (Render.run (ByName.template engine echoes stuck 2 maxDepth echoing)
        (.ofOut [0x2D])).map id Workspace.out = engine.render [0x2D] echoing echoes) ∧
    engine.render [0x2D] echoing echoes = (.error (.error (.depth "echo".toList 32)), [0x2D]) := by
  obtain ⟨hcompile, hsource, hrender, -⟩ := Engine.calls_end build_settings
  refine ⟨build_settings, hcompile circular, ?_,
    fun stuck => (hrender stuck echoes [0x2D]).1 echoing, ?_⟩
  · exact (hsource echoing).trans (by decide +kernel)
  · rw [Engine.render_eq]
    decide +kernel

end Sample
end Stencil
