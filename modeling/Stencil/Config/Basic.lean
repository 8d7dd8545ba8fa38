/-
# Configurations

A configuration describes an engine as plain data, apart from its filters, which are code.
Markers may be absent and then are the standard ones.
-/
import Stencil.Engine

namespace Stencil

/-- The plain-data part of an engine. -/
structure Config where
  start : Option Text
  stop : Option Text
  fallback : Option Text
  /-- Macros and their aliases. -/
  aliases : Dict (List Text)
  skip : List Text
  /-- Expansion macros and their texts. -/
  expansions : Dict Text

namespace Config

/-- Nothing configured. -/
def empty : Config := ⟨none, none, none, .empty, [], .empty⟩

/-- The aliases, declared in the order of their macros. -/
def aliasMap (c : Config) : AliasMap := .ofList c.aliases.entries

/-- The expansions, declared in the order of their names. -/
def expansionMap (c : Config) : Expansions := .ofList c.expansions.entries

/-- The settings of an engine with some filters. -/
def settings (c : Config) (filters : Registry) : Except BuildError Settings :=
  match Delimiters.make? (c.start.getD Delimiters.standard.start)
      (c.stop.getD Delimiters.standard.stop) with
  | .error side => .error (.emptyDelimiter side)
  | .ok delimiters =>
    .ok ⟨delimiters, filters, c.aliasMap, .ofList c.skip, c.expansionMap, c.fallback⟩

/-- Builds the engine of a configuration with some filters. -/
def build (c : Config) (filters : Registry) : Except BuildError Engine :=
  match c.settings filters with
  | .error e => .error e
  | .ok s => Engine.build s

end Config
end Stencil
