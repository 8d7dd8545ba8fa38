/-
# Tables of characters

A table is a list of runs of code points.  In written form a run is its first and its last code
point in hexadecimal, and runs stand between blanks:

    41          one code point
    41-5a       all from the first to the last
    100-12e/2   every second one
    df>73.73    a code point, and the code points that belong to it

Where one code point belongs to a longer run, it belongs to the first of the run, and the
others follow it at the same distance.
-/
import Stencil.Text.Numeral

namespace Stencil

/-- Code points at equal distances, and the code points that belong to them. -/
structure Run where
  first : Nat
  last : Nat
  step : Nat
  target : List Nat
deriving DecidableEq

namespace Run

/-- The value of a hexadecimal numeral. -/
def hexNumber (s : Text) : Nat := s.foldl (fun n c => n * 16 + (Text.hexValue? c).getD 0) 0

/-- The parts before and after the first `c`. -/
def cutAt (c : Char) (s : Text) : Text × Text :=
  (s.takeWhile (· != c), (s.dropWhile (· != c)).drop 1)

/-- Reads a run. -/
def read (s : Text) : Run :=
  let (span, target) := cutAt '>' s
  let (range, step) := cutAt '/' span
  let (first, last) := cutAt '-' range
  { first := hexNumber first
    last := if last = [] then hexNumber first else hexNumber last
    step := if step = [] then 1 else hexNumber step
    target := if target = [] then [] else (target.splitOn '.').map hexNumber }

/-- Reads the runs of some lines. -/
def readAll (lines : List String) : List Run :=
  lines.flatMap fun line => (line.toList.splitOn ' ').map read

/-- The run holds a code point. -/
def holds (r : Run) (n : Nat) : Bool :=
  r.first ≤ n && n ≤ r.last && (n - r.first) % r.step == 0

/-- One of the runs holds a code point. -/
def covers (runs : List Run) (n : Nat) : Bool := runs.any fun r => r.holds n

/-- What belongs to a code point. -/
def target? (runs : List Run) (n : Nat) : Option (List Nat) :=
  (runs.find? fun r => r.holds n).map fun r =>
    match r.target with
    | [t] => [t + (n - r.first)]
    | t => t

end Run
end Stencil
