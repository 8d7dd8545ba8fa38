/-
# Errors and their wording

Two families of errors: those of building an engine and those of a render call.  Each is a
cause; its text is the one function `message` of its family.

A render call can also meet a value that cannot be printed at all.  That is a `Failure` of its
own, outside the errors a caller can handle.
-/
import Stencil.Segments

namespace Stencil

/-- Why an engine could not be built. -/
inductive BuildError
  /-- A marker is empty after trimming. -/
  | emptyDelimiter (side : Side)
  /-- The text of an expansion has an unmatched marker. -/
  | expansion (name : Text) (source : Unmatched)
  /-- Expansions refer to each other in a circle. -/
  | cycle (chain : List Text)
deriving DecidableEq

/-- The wording of a build error. -/
def BuildError.message : BuildError → Text
  | .emptyDelimiter side =>
    "invalid ".toList ++ side.word ++ " delimiter: must not be empty".toList
  | .expansion name source =>
    "expansion for macro '".toList ++ name ++ "' failed to parse: ".toList ++ source.message
  | .cycle chain => "cyclic macro expansion: ".toList ++ Text.join " -> ".toList chain

/-- Why a render call was given up. -/
inductive RenderError
  /-- The text has an unmatched marker. -/
  | parse (e : Unmatched)
  /-- A macro has no value. -/
  | unbound (name : Text)
  /-- A token names a filter that is not registered. -/
  | noFilter (name : Text) (suggestions : List Text)
  /-- A filter failed. -/
  | filter (name reason : Text)
  /-- A custom value failed. -/
  | value (name reason : Text)
  /-- Bound templates are nested deeper than the limit. -/
  | depth (name : Text) (limit : Nat)
  /-- The sink failed. -/
  | sink (reason : Text)
  /-- The output was asked for as text, and is not UTF-8. -/
  | notUtf8
deriving DecidableEq

namespace RenderError

/-- The end of the message about a missing filter. -/
def hint (suggestions : List Text) : Text :=
  if suggestions = [] then []
  else "; did you mean: ".toList ++ Text.join ", ".toList suggestions ++ ['?']

/-- The wording of a render error. -/
def message : RenderError → Text
  | .parse e => e.message
  | .unbound name => "macro not found: '".toList ++ name ++ ['\'']
  | .noFilter name suggestions => "missing filter '".toList ++ name ++ '\'' :: hint suggestions
  | .filter name reason => "filter '".toList ++ name ++ "' failed: ".toList ++ reason
  | .value name reason =>
    "value for macro '".toList ++ name ++ "' failed to serialize: ".toList ++ reason
  | .depth name limit =>
    "template value for macro '".toList ++ name ++ "' nests deeper than ".toList
      ++ Text.ofNat limit ++ " levels".toList
  | .sink reason => "failed to write output: ".toList ++ reason
  | .notUtf8 => "rendered output is not valid UTF-8".toList

/-- The macro or filter that an error is about. -/
def name? : RenderError → Option Text
  | .unbound name => some name
  | .noFilter name _ => some name
  | .filter name _ => some name
  | .value name _ => some name
  | .depth name _ => some name
  | .parse _ => none
  | .sink _ => none
  | .notUtf8 => none

/-- A macro has no value. -/
def isUnbound : RenderError → Bool
  | .unbound _ => true
  | _ => false

end RenderError

/-- How a render call can end without output. -/
inductive Failure
  | error (e : RenderError)
  /-- A value could not be printed. -/
  | unprintable
deriving DecidableEq

end Stencil
