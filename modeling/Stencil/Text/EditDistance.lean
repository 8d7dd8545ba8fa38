/-
# Edit distance

The least number of insertions, deletions and substitutions of single characters that turn
one text into another.  It is found row by row: after reading a part of the first text, a row
holds the distances from that part to every beginning of the second text, shortest first.
-/
import Stencil.Text.Basic

namespace Stencil
namespace Text

/-- The rest of the next row after reading `c`.  `left` is the entry just made; the row above
starts with the entry diagonally behind. -/
def nextRow (c : Char) (left : Nat) : Text → List Nat → List Nat
  | d :: t, diagonal :: above :: row =>
    let here := min (min left above + 1) (if c = d then diagonal else diagonal + 1)
    left :: nextRow c here t (above :: row)
  | _, _ => [left]

/-- The last row for the texts `s` and `t`. -/
def lastRow (s t : Text) : List Nat :=
  s.foldl (fun row c => nextRow c (row.headD 0 + 1) t row) (List.range (t.length + 1))

/-- The edit distance of two texts, counted in characters. -/
def editDistance (s t : Text) : Nat := (lastRow s t).getLastD 0

end Text
end Stencil
