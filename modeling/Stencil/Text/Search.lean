/-
# First occurrences

`cut? w s` cuts `s` at the first place where `w` stands in it.  The two parts and `w` make
up the whole text (`eq_of_cut?`), `w` does not start anywhere earlier
(`length_le_of_cut?`), and there is no cut exactly when `w` does not occur
(`cut?_eq_none_iff`).
-/
import Stencil.Text.Basic

namespace Stencil
namespace Text

/-- What follows `w` at the start of `s`. -/
def after? : Text → Text → Option Text
  | [], s => some s
  | _ :: _, [] => none
  | c :: w, d :: s => if c = d then after? w s else none

/-- The text before the first occurrence of `w` and the text after it. -/
def cut? (w : Text) : Text → Option (Text × Text)
  | [] => (after? w []).map fun r => ([], r)
  | c :: s =>
    match after? w (c :: s) with
    | some r => some ([], r)
    | none => (cut? w s).map fun p => (c :: p.1, p.2)

/-- `w` occurs in `s`. -/
def occurs (w s : Text) : Bool := (cut? w s).isSome

theorem after?_eq_some_iff : ∀ {w s r : Text}, after? w s = some r ↔ s = w ++ r
  | [], s, r => by simp [after?]
  | c :: w, [], r => by simp [after?]
  | c :: w, d :: s, r => by
    by_cases h : c = d
    · subst h
      simp [after?, after?_eq_some_iff]
    · simp [after?, h, Ne.symm h]

/-- The parts of a cut make up the text. -/
theorem eq_of_cut? : ∀ {w s a b : Text}, cut? w s = some (a, b) → s = a ++ w ++ b
  | w, [], a, b, h => by
    simp only [cut?, Option.map_eq_some_iff, Prod.mk.injEq] at h
    obtain ⟨r, hr, rfl, rfl⟩ := h
    simpa using after?_eq_some_iff.mp hr
  | w, c :: s, a, b, h => by
    simp only [cut?] at h
    split at h
    · next r hr =>
      obtain ⟨rfl, rfl⟩ := by simpa using h
      simpa using after?_eq_some_iff.mp hr
    · simp only [Option.map_eq_some_iff, Prod.mk.injEq] at h
      obtain ⟨⟨a', b'⟩, hp, rfl, rfl⟩ := h
      simp [eq_of_cut? hp]

/-- There is no cut exactly when `w` does not stand anywhere in `s`. -/
theorem cut?_eq_none_iff : ∀ {w s : Text}, cut? w s = none ↔ ∀ a b, s ≠ a ++ w ++ b
  | w, [] => by
    simp only [cut?, Option.map_eq_none_iff]
    constructor
    · intro h a b hab
      have hw : w = [] := by
        cases a <;> cases w <;> simp at hab ⊢
      subst hw
      simp [after?] at h
    · intro h
      cases hr : after? w [] with
      | none => rfl
      | some r => exact absurd (by simpa using after?_eq_some_iff.mp hr) (h [] r)
  | w, c :: s => by
    simp only [cut?]
    split
    · next r hr =>
      simp only [reduceCtorEq, false_iff]
      exact fun h => h [] r (by simpa using after?_eq_some_iff.mp hr)
    · next hr =>
      simp only [Option.map_eq_none_iff, cut?_eq_none_iff]
      constructor
      · intro h a b hab
        cases a with
        | nil => simp [after?_eq_some_iff.mpr (show c :: s = w ++ b by simpa using hab)] at hr
        | cons d a =>
          simp only [List.cons_append, List.cons.injEq] at hab
          exact h a b (by simpa using hab.2)
      · intro h a b hab
        exact h (c :: a) b (by simp [hab])

/-- No occurrence of `w` starts before the cut. -/
theorem length_le_of_cut? : ∀ {w s a b a' b' : Text}, cut? w s = some (a, b) →
    s = a' ++ w ++ b' → a.length ≤ a'.length
  | w, [], a, b, a', b', h, h' => by
    simp only [cut?, Option.map_eq_some_iff, Prod.mk.injEq] at h
    obtain ⟨r, _, rfl, _⟩ := h
    simp
  | w, c :: s, a, b, a', b', h, h' => by
    simp only [cut?] at h
    split at h
    · obtain ⟨rfl, rfl⟩ := by simpa using h
      simp
    · next hr =>
      simp only [Option.map_eq_some_iff, Prod.mk.injEq] at h
      obtain ⟨⟨x, y⟩, hp, rfl, rfl⟩ := h
      cases a' with
      | nil => simp [after?_eq_some_iff.mpr (show c :: s = w ++ b' by simpa using h')] at hr
      | cons d a' =>
        simp only [List.cons_append, List.cons.injEq] at h'
        have := length_le_of_cut? hp (by simpa using h'.2)
        simpa using this

end Text
end Stencil
