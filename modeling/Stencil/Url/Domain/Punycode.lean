/-
# Punycode

A label with characters outside ASCII is written with ASCII letters and digits.  Its ASCII
characters come first, then a hyphen if there are any; the others follow in the order of their
code points, each as the number of steps from the one before it.

A step counts both the code points skipped and the places in the label skipped, and is written
with digits of base 36, lowest first, where a threshold that adapts to the steps before it says
which digits end a number.
-/
import Stencil.Text.Numeral

namespace Stencil
namespace Punycode

/-! ## 1. Digits and thresholds -/

/-- The sign of a digit: a letter below 26, and a decimal digit from there on. -/
def digit (n : Nat) : Char := if n < 26 then Char.ofNat (97 + n) else Char.ofNat (22 + n)

/-- The value of a digit. -/
def digitValue? (c : Char) : Option Nat :=
  if 'a' ≤ c ∧ c ≤ 'z' then some (c.toNat - 97)
  else if 'A' ≤ c ∧ c ≤ 'Z' then some (c.toNat - 65)
  else if '0' ≤ c ∧ c ≤ '9' then some (c.toNat - 22)
  else none

/-- The threshold of the digit at place `k`, which grows by 36 from digit to digit. -/
def threshold (bias k : Nat) : Nat := min 26 (max 1 (k - bias))

theorem threshold_pos (bias k : Nat) : 1 ≤ threshold bias k := by
  simp only [threshold]
  omega

theorem threshold_le (bias k : Nat) : threshold bias k ≤ 26 := by
  simp only [threshold]
  omega

/-- Divides a step by 35 until it is small, and adds 36 for each division. -/
def shrink (step k : Nat) : Nat × Nat :=
  if 455 < step then shrink (step / 35) (k + 36) else (step, k)
termination_by step
decreasing_by omega

/-- The bias after a step, when `count` characters are in place. -/
def adapt (step count : Nat) (first : Bool) : Nat :=
  let halved := if first then step / 700 else step / 2
  let (small, k) := shrink (halved + halved / count) 0
  k + 36 * small / (small + 38)

/-! ## 2. Writing -/

/-- The digits of a number. -/
def writeNumber (bias k n : Nat) : Text :=
  let t := threshold bias k
  if n < t then [digit n]
  else digit (t + (n - t) % (36 - t)) :: writeNumber bias (k + 36) ((n - t) / (36 - t))
termination_by n
decreasing_by
  have := threshold_pos bias k
  have : (n - threshold bias k) / (36 - threshold bias k) ≤ n - threshold bias k :=
    Nat.div_le_self _ _
  omega

/-- What has been written: the step to the next character, the bias, and how many characters
are in place. -/
structure Writer where
  out : Text
  step : Nat
  bias : Nat
  count : Nat

/-- Goes over one character of the label while the characters of code point `n` are written. -/
def Writer.pass (basic n : Nat) (w : Writer) (c : Char) : Writer :=
  if c.toNat < n then { w with step := w.step + 1 }
  else if c.toNat = n then
    { out := w.out ++ writeNumber w.bias 36 w.step
      step := 0
      bias := adapt w.step (w.count + 1) (w.count == basic)
      count := w.count + 1 }
  else w

/-- Writes the characters of some code points, of which those below `n` are written. -/
def writeFrom (label : Text) (basic : Nat) : List Nat → Nat → Writer → Text
  | [], _, w => w.out
  | m :: rest, n, w =>
    let w := { w with step := w.step + (m - n) * (w.count + 1) }
    let w := label.foldl (Writer.pass basic m) w
    writeFrom label basic rest (m + 1) { w with step := w.step + 1 }

/-- The written form of a label. -/
def encode (label : Text) : Text :=
  let basic := label.filter fun c => c.toNat < 0x80
  let others := ((label.filter fun c => 0x80 ≤ c.toNat).map Char.toNat).mergeSort.eraseDups
  basic ++ (if basic = [] then [] else ['-'])
    ++ writeFrom label basic.length others 0x80 ⟨[], 0, 72, basic.length⟩

/-! ## 3. Reading -/

/-- Reads a number whose digits count `weight` from place `k` on: the number and the rest. -/
def readNumber (bias : Nat) : Nat → Nat → Text → Option (Nat × Text)
  | _, _, [] => none
  | k, weight, c :: s =>
    match digitValue? c with
    | none => none
    | some d =>
      let t := threshold bias k
      if d < t then some (d * weight, s)
      else (readNumber bias (k + 36) (weight * (36 - t)) s).map fun p => (d * weight + p.1, p.2)

theorem length_readNumber : ∀ {bias k weight : Nat} {s rest : Text} {n : Nat},
    readNumber bias k weight s = some (n, rest) → rest.length < s.length
  | _, _, _, [], _, _, h => by simp [readNumber] at h
  | bias, k, weight, c :: s, rest, n, h => by
    simp only [readNumber] at h
    split at h
    · simp at h
    · next d _ =>
      split at h
      · simp only [Option.some.injEq, Prod.mk.injEq] at h
        simp [← h.2]
      · simp only [Option.map_eq_some_iff, Prod.mk.injEq] at h
        obtain ⟨⟨m, r⟩, hr, _, rfl⟩ := h
        have := length_readNumber hr
        simp only [List.length_cons]
        omega

/-- Puts characters in their places: `label` holds the characters so far, the next one is at
least `n` and its place is counted from `place`.  `first` says that it is the first one. -/
def readFrom (first : Bool) (bias n place : Nat) (label s : Text) : Option Text :=
  if s = [] then some label
  else
    match _h : readNumber bias 36 1 s with
    | none => none
    | some (step, rest) =>
      let length := label.length + 1
      let total := place + step
      let n := n + total / length
      if (0xd800 ≤ n ∧ n < 0xe000) ∨ 0x10ffff < n then none
      else
        readFrom false (adapt step length first) n (total % length + 1)
          (label.take (total % length) ++ Char.ofNat n :: label.drop (total % length)) rest
termination_by s.length
decreasing_by exact length_readNumber _h

/-- Reads the written form of a label.  The last hyphen ends the ASCII characters, of which there
must be some. -/
def decode (s : Text) : Option Text :=
  let extended := (s.reverse.takeWhile (· != '-')).reverse
  let basic := (s.take (s.length - extended.length)).dropLast
  if s.any fun c => 0x80 ≤ c.toNat then none
  else if basic = [] then readFrom true 72 0x80 0 [] s
  else readFrom true 72 0x80 0 basic extended

end Punycode
end Stencil
