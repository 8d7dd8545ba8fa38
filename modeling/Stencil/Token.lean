/-
# Tokens

A token is a macro name and a chain of filter names, written with a colon before each filter.
The name is what stands before the first colon, and the filters are the non-empty stretches
between the colons after it.

* `Token.split`: the name and the rest, which starts with its colon;
* `Token.filterNames`: the filters of such a rest;
* `Token.make`: writes a name and filters as a token, without empty filters;
* `Token.parse`: reads a token from text with blanks around it.
-/
import Stencil.Text.Blank

namespace Stencil

/-- A token in written form. -/
structure Token where
  text : Text
deriving DecidableEq

namespace Token

/-- Token text at its first colon: the name, and the rest from the colon on. -/
def split (s : Text) : Text × Text := (s.takeWhile (· != ':'), s.dropWhile (· != ':'))

/-- The non-empty stretches between colons. -/
def filterNames (suffix : Text) : List Text :=
  (suffix.splitOn ':').filter fun f => !f.isEmpty

/-- The chain of some filters: a colon before each, empty ones left out. -/
def chain (filters : List Text) : Text :=
  (filters.filter fun f => !f.isEmpty).flatMap (':' :: ·)

/-- The token of a name and filters. -/
def make (name : Text) (filters : List Text) : Token := ⟨name ++ chain filters⟩

/-- Reads a token, without blanks around it and before its first colon. -/
def parse (s : Text) : Token :=
  let parts := split s.trim
  make parts.1.trimEnd (filterNames parts.2)

/-- The macro name. -/
def name (t : Token) : Text := (split t.text).1

/-- What follows the name. -/
def suffix (t : Token) : Text := (split t.text).2

/-- The filter names in the order of their application. -/
def filters (t : Token) : List Text := filterNames t.suffix

/-- Names at least one filter. -/
def hasFilters (t : Token) : Bool := !t.filters.isEmpty

/-- Splitting loses nothing. -/
theorem split_append (s : Text) : (split s).1 ++ (split s).2 = s :=
  List.takeWhile_append_dropWhile

/-- The name of a split holds no colon. -/
theorem not_mem_split (s : Text) : ':' ∉ (split s).1 := fun h => by
  simpa using List.all_eq_true.mp (List.all_takeWhile (p := (· != ':')) (l := s)) _ h

end Token
end Stencil
