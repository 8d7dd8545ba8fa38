/-
# Blank characters and trimming

A character is blank when it has the Unicode property `White_Space`.  Trimming takes blank
characters off the ends of a text.  U+200B and U+FEFF are not blank; U+0085 and U+00A0 are.
-/
import Stencil.Text.Basic

namespace Stencil

/-- Has the Unicode property `White_Space`. -/
def isBlank (c : Char) : Bool :=
  let n := c.toNat
  (9 ≤ n && n ≤ 13) || n == 0x20 || n == 0x85 || n == 0xa0 || n == 0x1680
    || (0x2000 ≤ n && n ≤ 0x200a) || n == 0x2028 || n == 0x2029 || n == 0x202f
    || n == 0x205f || n == 0x3000

namespace Text

/-- Takes the leading blanks off. -/
def trimStart (s : Text) : Text := s.dropWhile isBlank

/-- Takes the trailing blanks off. -/
def trimEnd (s : Text) : Text := (s.reverse.dropWhile isBlank).reverse

/-- Takes the blanks off both ends. -/
def trim (s : Text) : Text := trimEnd (trimStart s)

/-- What `trimStart` leaves does not start with a blank. -/
theorem head_trimStart {s : Text} {c : Char} {r : Text} (h : trimStart s = c :: r) :
    isBlank c = false := by
  have := List.head?_dropWhile_not isBlank s
  simp only [trimStart] at h
  simpa [h] using this

/-- `trimEnd` only takes from the end. -/
theorem trimEnd_isPrefix (s : Text) : trimEnd s <+: s := by
  have h := List.dropWhile_suffix (l := s.reverse) isBlank
  simpa [trimEnd] using List.reverse_prefix.mpr h

/-- Trimming only takes off the ends. -/
theorem trim_isInfix (s : Text) : trim s <:+: s :=
  (trimEnd_isPrefix (trimStart s)).isInfix.trans (List.dropWhile_suffix isBlank).isInfix

/-- A trimmed text does not start with a blank. -/
theorem head_trim {s : Text} {c : Char} {r : Text} (h : trim s = c :: r) :
    isBlank c = false := by
  obtain ⟨u, hu⟩ := trimEnd_isPrefix (trimStart s)
  rw [show trimEnd (trimStart s) = c :: r from h] at hu
  exact head_trimStart (r := r ++ u) (by simpa using hu.symm)

end Text
end Stencil
