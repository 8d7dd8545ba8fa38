/-
# The edit distance counts edits

The edit distance of two texts is found row by row.  This file shows what is found: the least number
of edits that lead from the first text to the second, where an edit inserts, deletes or substitutes
one character anywhere in the text.

* `Text.Edit`, `Text.Edits`: one edit, and so many edits in a row.
* `Text.Aligns`: two texts written side by side, column by column, and what the columns cost.  It
  can be cut at any place of the second text (`Aligns.exists_of_append`), where an edit then meets
  only one column of it (`Aligns.exists_of_edit`).  So edits and alignments come to the same
  (`Aligns.edits`, `Edits.exists_aligns`).
* `Text.IsRow`: a row holds the least costs to the beginnings of the second text, and
  `Text.nextRow` makes the next row (`IsRow.next`).
* `Text.isLeast_editDistance`: so the last entry of the last row is the least number of edits.
-/
import Mathlib.Data.List.Induction
import Mathlib.Order.Bounds.Basic
import Stencil.Text.EditDistance

namespace Stencil
namespace Text

variable {s t u : Text} {n m : Nat}

/-! ## 1. Edits -/

/-- One character is inserted, deleted or substituted. -/
inductive Edit : Text → Text → Prop
  | insert (a b : Text) (d : Char) : Edit (a ++ b) (a ++ d :: b)
  | delete (a b : Text) (c : Char) : Edit (a ++ c :: b) (a ++ b)
  | substitute (a b : Text) (c d : Char) : Edit (a ++ c :: b) (a ++ d :: b)

/-- So many edits lead from one text to the other. -/
inductive Edits : Nat → Text → Text → Prop
  | refl (s : Text) : Edits 0 s s
  | tail {n : Nat} {s t u : Text} (h : Edits n s t) (hedit : Edit t u) : Edits (n + 1) s u

/-- Edits do not mind what stands after the text. -/
theorem Edit.append (h : Edit s t) (x : Text) : Edit (s ++ x) (t ++ x) := by
  cases h with
  | insert a b d => simpa using Edit.insert a (b ++ x) d
  | delete a b c => simpa using Edit.delete a (b ++ x) c
  | substitute a b c d => simpa using Edit.substitute a (b ++ x) c d

namespace Edits

theorem append (h : Edits n s t) (x : Text) : Edits n (s ++ x) (t ++ x) := by
  induction h with
  | refl s => exact .refl (s ++ x)
  | tail _ hedit ih => exact .tail ih (hedit.append x)

theorem trans (h : Edits n s t) (h' : Edits m t u) : Edits (n + m) s u := by
  induction h' with
  | refl => exact h
  | tail _ hedit ih => exact .tail (ih h) hedit

end Edits

/-! ## 2. Alignments -/

/-- A column of two texts side by side: what it costs, and its character of each text, if it has
one. -/
inductive Column : Nat → Text → Text → Prop
  | insert (d : Char) : Column 1 [] [d]
  | delete (c : Char) : Column 1 [c] []
  | keep (c : Char) : Column 0 [c] [c]
  | substitute (c d : Char) : Column 1 [c] [d]

/-- **Two texts side by side**, column by column, and what the columns cost together. -/
inductive Aligns : Nat → Text → Text → Prop
  | nil : Aligns 0 [] []
  | snoc {n k : Nat} {s t x y : Text} (h : Aligns n s t) (column : Column k x y) :
      Aligns (n + k) (s ++ x) (t ++ y)

namespace Column

variable {k : Nat} {x y : Text}

/-- What a column costs, it takes in edits. -/
theorem edits (h : Column k x y) (s : Text) : Edits k (s ++ x) (s ++ y) := by
  cases h with
  | insert d => exact .tail (.refl _) (.insert s [] d)
  | delete c => exact .tail (.refl _) (.delete s [] c)
  | keep c => exact .refl _
  | substitute c d => exact .tail (.refl _) (.substitute s [] c d)

theorem length_le (h : Column k x y) : x.length ≤ y.length + k ∧ y.length ≤ x.length + k := by
  cases h <;> simp

/-- A column has one character of the second text at most. -/
theorem eq_nil_or_singleton (h : Column k x y) : y = [] ∨ ∃ d, y = [d] := by
  cases h with
  | insert d => exact .inr ⟨d, rfl⟩
  | delete c => exact .inl rfl
  | keep c => exact .inr ⟨c, rfl⟩
  | substitute c d => exact .inr ⟨d, rfl⟩

end Column

namespace Aligns

/-- **What an alignment costs, it takes in edits.** -/
theorem edits (h : Aligns n s t) : Edits n s t := by
  induction h with
  | nil => exact .refl []
  | snoc _ column ih => exact (ih.append _).trans (column.edits _)

/-- Texts of different lengths cost the difference at least. -/
theorem length_le (h : Aligns n s t) : s.length ≤ t.length + n ∧ t.length ≤ s.length + n := by
  induction h with
  | nil => exact ⟨Nat.le_refl 0, Nat.le_refl 0⟩
  | snoc _ column ih =>
    have hcolumn := column.length_le
    simp only [List.length_append]
    omega

theorem refl (s : Text) : Aligns 0 s s := by
  induction s using List.reverseRecOn with
  | nil => exact .nil
  | append_singleton s c ih => exact ih.snoc (.keep c)

/-- A text next to an empty one costs its length. -/
theorem of_nil_right (s : Text) : Aligns s.length s [] := by
  induction s using List.reverseRecOn with
  | nil => exact .nil
  | append_singleton s c ih => simpa using ih.snoc (.delete c)

theorem of_nil_left (t : Text) : Aligns t.length [] t := by
  induction t using List.reverseRecOn with
  | nil => exact .nil
  | append_singleton t d ih => simpa using ih.snoc (.insert d)

/-- Alignments one after the other. -/
theorem append {s' t' : Text} (h : Aligns n s t) (h' : Aligns m s' t') :
    Aligns (n + m) (s ++ s') (t ++ t') := by
  induction h' with
  | nil => simpa using h
  | snoc _ column ih => simpa [Nat.add_assoc] using ih.snoc column

/-- **An alignment can be cut** at any place of the second text. -/
theorem exists_of_append (h : Aligns n s u) : ∀ {a b : Text}, u = a ++ b →
    ∃ s₁ s₂ n₁ n₂, s = s₁ ++ s₂ ∧ n = n₁ + n₂ ∧ Aligns n₁ s₁ a ∧ Aligns n₂ s₂ b := by
  induction h with
  | nil =>
    intro a b hu
    obtain ⟨rfl, rfl⟩ := List.append_eq_nil_iff.mp hu.symm
    exact ⟨[], [], 0, 0, rfl, rfl, .nil, .nil⟩
  | @snoc n k s t x y h column ih =>
    -- the last column goes to the second part, unless that is empty
    have hback : ∀ {a b : Text}, t = a ++ b → ∃ s₁ s₂ n₁ n₂, s ++ x = s₁ ++ s₂ ∧
        n + k = n₁ + n₂ ∧ Aligns n₁ s₁ a ∧ Aligns n₂ s₂ (b ++ y) := by
      intro a b ht
      obtain ⟨s₁, s₂, n₁, n₂, rfl, rfl, h₁, h₂⟩ := ih ht
      exact ⟨s₁, s₂ ++ x, n₁, n₂ + k, List.append_assoc .., Nat.add_assoc .., h₁,
        h₂.snoc column⟩
    intro a b hu
    rcases column.eq_nil_or_singleton with rfl | ⟨d, rfl⟩
    · rw [List.append_nil] at hu
      simpa using hback hu
    · cases b using List.reverseRecOn with
      | nil =>
        rw [List.append_nil] at hu
        exact ⟨s ++ x, [], n + k, 0, (List.append_nil _).symm, rfl, hu ▸ h.snoc column, .nil⟩
      | append_singleton b d' =>
        rw [← List.append_assoc] at hu
        obtain ⟨ht, hd⟩ := List.append_inj' hu rfl
        exact hd ▸ hback ht

/-- A text next to one character costs more by one at most when the character is left out, -/
theorem exists_nil_right {d : Char} (h : Aligns n s [d]) : ∃ m ≤ n + 1, Aligns m s [] := by
  have hlen := h.length_le.1
  exact ⟨s.length, by simpa [Nat.add_comm] using hlen, of_nil_right s⟩

/-- or when it is another one. -/
theorem exists_singleton_right {c : Char} (h : Aligns n s [c]) (d : Char) :
    ∃ m ≤ n + 1, Aligns m s [d] := by
  have hs := h.length_le.1
  cases s using List.reverseRecOn with
  | nil => exact ⟨1, by simp, of_nil_left [d]⟩
  | append_singleton s e =>
    refine ⟨s.length + 1, ?_, (of_nil_right s).snoc (.substitute e d)⟩
    simp only [List.length_append, List.length_singleton] at hs
    omega

/-- **One more edit costs one more at most.**  It meets one column, and the alignment is cut around
it. -/
theorem exists_of_edit (h : Aligns n s t) (hedit : Edit t u) : ∃ m ≤ n + 1, Aligns m s u := by
  cases hedit with
  | insert a b d =>
    obtain ⟨s₁, s₂, n₁, n₂, rfl, rfl, h₁, h₂⟩ := h.exists_of_append rfl
    refine ⟨n₁ + (1 + n₂), by omega, h₁.append ?_⟩
    exact (of_nil_left [d]).append h₂
  | delete a b c =>
    obtain ⟨s₁, s', n₁, n', rfl, rfl, h₁, h'⟩ := h.exists_of_append rfl
    obtain ⟨sc, s₂, nc, n₂, rfl, rfl, hc, h₂⟩ := h'.exists_of_append (List.singleton_append.symm)
    obtain ⟨m, hm, hnil⟩ := hc.exists_nil_right
    exact ⟨n₁ + (m + n₂), by omega, h₁.append (hnil.append h₂)⟩
  | substitute a b c d =>
    obtain ⟨s₁, s', n₁, n', rfl, rfl, h₁, h'⟩ := h.exists_of_append rfl
    obtain ⟨sc, s₂, nc, n₂, rfl, rfl, hc, h₂⟩ := h'.exists_of_append (List.singleton_append.symm)
    obtain ⟨m, hm, hother⟩ := hc.exists_singleton_right d
    exact ⟨n₁ + (m + n₂), by omega, h₁.append (hother.append h₂)⟩

end Aligns

/-- **Edits can be written side by side** at no greater cost. -/
theorem Edits.exists_aligns (h : Edits n s t) : ∃ m ≤ n, Aligns m s t := by
  induction h with
  | refl s => exact ⟨0, Nat.le_refl 0, .refl s⟩
  | tail _ hedit ih =>
    obtain ⟨m, hm, haligns⟩ := ih
    obtain ⟨m', hm', haligns'⟩ := haligns.exists_of_edit hedit
    exact ⟨m', by omega, haligns'⟩

/-! ## 3. Rows -/

/-- The least cost of two texts side by side. -/
def Costs (s t : Text) (n : Nat) : Prop := IsLeast {k | Aligns k s t} n

/-- The entries of a row for `s`: the costs to `p`, and to `p` with more and more of `t`. -/
inductive IsRow (s : Text) : Text → Text → List Nat → Prop
  | last {p : Text} {n : Nat} (h : Costs s p n) : IsRow s p [] [n]
  | cons {p t : Text} {d : Char} {n : Nat} {row : List Nat} (h : Costs s p n)
      (hrow : IsRow s (p ++ [d]) t row) : IsRow s p (d :: t) (n :: row)

namespace Costs

variable {p : Text} {c d : Char} {left above diagonal : Nat}

theorem nil_left (t : Text) : Costs [] t t.length :=
  ⟨.of_nil_left t, fun _ h => by simpa using h.length_le.2⟩

theorem nil_right (s : Text) : Costs s [] s.length :=
  ⟨.of_nil_right s, fun _ h => by simpa using h.length_le.1⟩

/-- The last column of two texts decides which entry the cost comes from. -/
theorem le_of_aligns (hleft : Costs (s ++ [c]) p left) (habove : Costs s (p ++ [d]) above)
    (hdiagonal : Costs s p diagonal) {k : Nat} (h : Aligns k (s ++ [c]) (p ++ [d])) :
    min (min left above + 1) (if c = d then diagonal else diagonal + 1) ≤ k := by
  generalize hx : s ++ [c] = x at h
  generalize hy : p ++ [d] = y at h
  cases h with
  | nil => simp at hx
  | @snoc n j s' t' x' y' h column =>
    cases column with
    | insert d' =>
      obtain ⟨rfl, -⟩ := List.append_inj' hy rfl
      rw [List.append_nil] at hx
      have hle : left ≤ n := hleft.2 (hx ▸ h)
      omega
    | delete c' =>
      obtain ⟨rfl, -⟩ := List.append_inj' hx rfl
      rw [List.append_nil] at hy
      have hle : above ≤ n := habove.2 (hy ▸ h)
      omega
    | keep c' =>
      obtain ⟨rfl, hc⟩ := List.append_inj' hx rfl
      obtain ⟨rfl, hd⟩ := List.append_inj' hy rfl
      have hcd : c = d := (List.singleton_inj.mp hc).trans (List.singleton_inj.mp hd).symm
      have hle : diagonal ≤ n := hdiagonal.2 h
      rw [if_pos hcd]
      omega
    | substitute c' d' =>
      obtain ⟨rfl, -⟩ := List.append_inj' hx rfl
      obtain ⟨rfl, -⟩ := List.append_inj' hy rfl
      have hle : diagonal ≤ n := hdiagonal.2 h
      split <;> omega

/-- **An entry is made of the three around it.** -/
theorem snoc (hleft : Costs (s ++ [c]) p left) (habove : Costs s (p ++ [d]) above)
    (hdiagonal : Costs s p diagonal) : Costs (s ++ [c]) (p ++ [d])
      (min (min left above + 1) (if c = d then diagonal else diagonal + 1)) := by
  refine ⟨?_, fun _ h => le_of_aligns hleft habove hdiagonal h⟩
  have hinsert : Aligns (left + 1) (s ++ [c]) (p ++ [d]) := by simpa using hleft.1.snoc (.insert d)
  have hdelete : Aligns (above + 1) (s ++ [c]) (p ++ [d]) := by simpa using habove.1.snoc (.delete c)
  have hboth : Aligns (if c = d then diagonal else diagonal + 1) (s ++ [c]) (p ++ [d]) := by
    split
    · next hcd => exact hcd ▸ hdiagonal.1.snoc (.keep c)
    · exact hdiagonal.1.snoc (.substitute c d)
  rcases Nat.le_total (min left above + 1) (if c = d then diagonal else diagonal + 1) with h | h
  · rw [Nat.min_eq_left h]
    rcases Nat.le_total left above with h' | h'
    · rw [Nat.min_eq_left h']
      exact hinsert
    · rw [Nat.min_eq_right h']
      exact hdelete
  · rw [Nat.min_eq_right h]
    exact hboth

end Costs

namespace IsRow

variable {p : Text} {c : Char} {left : Nat} {row : List Nat}

/-- A row starts with an entry. -/
theorem exists_cons (h : IsRow s p t row) : ∃ n rest, row = n :: rest ∧ Costs s p n := by
  cases h with
  | last h => exact ⟨_, [], rfl, h⟩
  | cons h _ => exact ⟨_, _, rfl, h⟩

/-- The row for the empty text counts the characters. -/
theorem range' : ∀ p t : Text, IsRow [] p t (List.range' p.length (t.length + 1))
  | p, [] => .last (.nil_left p)
  | p, d :: t => by
    have hrest := range' (p ++ [d]) t
    rw [List.length_append, List.length_singleton] at hrest
    exact .cons (.nil_left p) hrest

/-- **The next row holds the costs** for one character more. -/
theorem next (h : IsRow s p t row) : ∀ {left : Nat}, Costs (s ++ [c]) p left →
    IsRow (s ++ [c]) p t (nextRow c left t row) := by
  induction h with
  | last _ => exact fun hleft => .last hleft
  | cons h hrow ih =>
    intro left hleft
    obtain ⟨above, rest, rfl, habove⟩ := hrow.exists_cons
    exact .cons hleft (ih (hleft.snoc habove h))

/-- The rows of a text, one after the other. -/
theorem foldl (t : Text) : ∀ (u : Text) {s : Text} {row : List Nat}, IsRow s [] t row →
    IsRow (s ++ u) [] t (u.foldl (fun row c => nextRow c (row.headD 0 + 1) t row) row)
  | [], s, row, h => by simpa using h
  | c :: u, s, row, h => by
    obtain ⟨n, rest, rfl, hn⟩ := h.exists_cons
    have hlen : n = s.length := hn.unique (Costs.nil_right s)
    have hhead : Costs (s ++ [c]) [] (n + 1) := by
      rw [hlen]
      simpa using Costs.nil_right (s ++ [c])
    simpa using foldl t u (h.next hhead)

/-- The last entry of a row is the cost of the whole text. -/
theorem getLastD (h : IsRow s p t row) (default : Nat) :
    Costs s (p ++ t) (row.getLastD default) := by
  induction h generalizing default with
  | last h => simpa using h
  | @cons p t d n row _ _ ih =>
    have hrest := ih n
    rw [List.append_assoc, List.singleton_append] at hrest
    rw [List.getLastD_cons]
    exact hrest

end IsRow

/-- **The edit distance is the least number of edits** that lead from the first text to the
second. -/
theorem isLeast_editDistance (s t : Text) : IsLeast {n | Edits n s t} (s.editDistance t) := by
  have hcosts : Costs s t (s.editDistance t) := by
    have hstart : IsRow [] [] t (List.range (t.length + 1)) := by
      rw [List.range_eq_range']
      exact .range' [] t
    exact (IsRow.foldl t s hstart).getLastD 0
  refine ⟨hcosts.1.edits, fun n h => ?_⟩
  obtain ⟨m, hm, haligns⟩ := Edits.exists_aligns h
  exact Nat.le_trans (hcosts.2 haligns) hm

/-- Characters at the end of a text are so many insertions. -/
theorem editDistance_append (s x : Text) : s.editDistance (s ++ x) = x.length := by
  obtain ⟨hedits, hleast⟩ := isLeast_editDistance s (s ++ x)
  have hinserts : Edits x.length s (s ++ x) := by
    simpa using ((Aligns.refl s).append (.of_nil_left x)).edits
  obtain ⟨m, hm, haligns⟩ := Edits.exists_aligns hedits
  have hlen := haligns.length_le.2
  rw [List.length_append] at hlen
  exact Nat.le_antisymm (hleast hinserts) (by omega)

end Text
end Stencil
