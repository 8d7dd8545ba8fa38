/-
# Delimiters

The pair of markers around a token.  A marker is never empty; it is trimmed when a pair is
made from two texts (`Delimiters.make?`), and the start marker is judged first.
-/
import Stencil.Text.Search
import Stencil.Token

namespace Stencil

/-- One of the two markers. -/
inductive Side
  | start
  | stop
deriving DecidableEq

/-- The word that messages use for a marker. -/
def Side.word : Side → Text
  | .start => "start".toList
  | .stop => "end".toList

/-- A start marker and an end marker, neither of them empty. -/
structure Delimiters where
  start : Text
  stop : Text
  start_ne_nil : start ≠ []
  stop_ne_nil : stop ≠ []
deriving DecidableEq

namespace Delimiters

/-- The markers `$` with an opening brace, and a closing brace. -/
def standard : Delimiters := ⟨['$', '\x7b'], ['\x7d'], by simp, by simp⟩

instance : Inhabited Delimiters := ⟨standard⟩

/-- Trims both markers and refuses a pair with an empty one, naming the first that is. -/
def make? (start stop : Text) : Except Side Delimiters :=
  if hs : start.trim = [] then .error .start
  else if he : stop.trim = [] then .error .stop
  else .ok ⟨start.trim, stop.trim, hs, he⟩

/-- A token between its markers. -/
def placeholder (d : Delimiters) (token : Text) : Text := d.start ++ token ++ d.stop

/-- A macro and a filter suffix between the markers, the filters in canonical form. -/
def echo (d : Delimiters) (name suffix : Text) : Text :=
  d.placeholder (name ++ Token.chain (Token.filterNames suffix))

end Delimiters
end Stencil
