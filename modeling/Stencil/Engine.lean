/-
# Engines

An engine holds everything that rendering needs besides bindings: markers, filters, aliases,
macros to echo, linked expansions and a default value.  It is built once (`Engine.build`) and
never changes.

Compiling a text (`Engine.compile`) cuts it into segments, resolves the macro of each token
once, and splices the bodies of expansions in the place of their tokens, joining the literal
text around them.
-/
import Stencil.Error
import Stencil.Filter
import Stencil.Linking
import Stencil.Names

namespace Stencil

/-- What an engine is built from. -/
structure Settings where
  delimiters : Delimiters
  filters : Registry
  aliases : AliasMap
  skip : SkipList
  expansions : Expansions
  fallback : Option Text

/-- The settings with nothing declared. -/
def Settings.standard : Settings :=
  ⟨.standard, .empty, .empty, .ofList [], .ofList [], none⟩

/-- A template engine. -/
structure Engine where
  delimiters : Delimiters
  filters : Registry
  aliases : AliasMap
  skip : SkipList
  /-- Expansion macros and their linked bodies. -/
  bodies : Dict Body
  /-- The value of macros that nothing is bound to. -/
  fallback : Option Text

namespace Engine

/-- Compiles segments after literal text that waits for its next token. -/
def compileSegments (E : Engine) (pending : Text) :
    Segments → Except Unmatched (List Chunk × Text)
  | .tail s => .ok ([], pending ++ s)
  | .unmatched position => .error ⟨E.delimiters.start, position⟩
  | .token lead body rest =>
    let (written, suffix) := Token.split body.trim
    let name := E.aliases.resolve written
    match E.bodies.get? name with
    | none =>
      match E.compileSegments [] rest with
      | .error e => .error e
      | .ok (chunks, tail) =>
        .ok (⟨pending ++ lead, Token.make name (Token.filterNames suffix)⟩ :: chunks, tail)
    | some b =>
      let spliced := b.splice (pending ++ lead)
      match E.compileSegments spliced.2 rest with
      | .error e => .error e
      | .ok (chunks, tail) => .ok (spliced.1 ++ chunks, tail)

/-- Compiles a text. -/
def compile (E : Engine) (s : Text) : Except Unmatched Template :=
  match E.compileSegments [] (E.delimiters.segments 0 s) with
  | .error e => .error e
  | .ok (chunks, tail) => .ok ⟨chunks, tail, E.delimiters⟩

/-- The engine of some settings, before its expansions are compiled. -/
def bare (s : Settings) : Engine :=
  ⟨s.delimiters, s.filters, s.aliases, s.skip, .empty, s.fallback⟩

/-- Compiles expansion texts in turn; the first that fails decides. -/
def compileAll (E : Engine) : List (Text × Text) → Dict Template →
    Except BuildError (Dict Template)
  | [], done => .ok done
  | (name, text) :: rest, done =>
    match E.compile text with
    | .error e => .error (.expansion name e)
    | .ok t => E.compileAll rest (done.insert name t)

/-- Builds an engine.  All expansion texts are compiled, with aliases but without looking into
each other, before they are linked. -/
def build (s : Settings) : Except BuildError Engine :=
  match (bare s).compileAll s.expansions.toList .empty with
  | .error e => .error e
  | .ok defs =>
    match Linking.linkAll defs with
    | .error chain => .error (.cycle chain)
    | .ok bodies => .ok { bare s with bodies }

/-- The engine with nothing declared. -/
def plain : Engine := bare .standard

/-- The engine with nothing declared but the built-in filters. -/
def standard : Engine := { plain with filters := .builtin }

/-- The template written for an expansion macro. -/
def expansion? (E : Engine) (name : Text) : Option Template :=
  (E.bodies.get? name).map (Body.template · E.delimiters)

/-- Reads a token and resolves its macro. -/
def resolveToken (E : Engine) (s : Text) : Token :=
  let (name, suffix) := Token.split s.trim
  Token.make (E.aliases.resolve name) (Token.filterNames suffix)

/-- One chunk in written form, with the body of an expansion in its place. -/
def chunkSource (E : Engine) (c : Chunk) : Text :=
  c.lead ++
    match E.bodies.get? c.token.name with
    | some b => b.source E.delimiters
    | none => E.delimiters.placeholder c.token.text

/-- Writes a template back as text, with this engine's markers and expansions. -/
def source (E : Engine) (t : Template) : Text := t.chunks.flatMap E.chunkSource ++ t.tail

end Engine
end Stencil
