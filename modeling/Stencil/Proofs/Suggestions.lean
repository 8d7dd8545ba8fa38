/-
# Suggested names

A name that is missing is answered with names that may have been meant.  This file shows which ones:
those that are no more edits away than the name's reach, nearest first and at most three, so that a
name within reach is left out only for three that stand before it.

The reach is meant to be one edit for names of at most three characters, and two for longer ones
(`characterReach`).  It is told from the bytes of the name instead.  That comes to the same for
names in ASCII; a name of at most three characters that takes more than three bytes is given the
reach of a longer one.

* `suggestions_eq_take`: suggesting is ranking and taking three; `nearerOrEqual_iff` is the ranking.
* `SuggestsWithin`: what suggestions within a reach are.
* `suggestions_within`: suggestions are within the reach of the code, and within the reach that is
  meant for just those names for which the two are the same.
-/
import Stencil.Filter
import Stencil.Proofs.ByteOrder
import Stencil.Proofs.EditScripts

namespace Stencil

/-! ## 1. Ranking -/

/-- The names within the reach of `name`, with their distances. -/
def candidates (name : Text) (available : List Text) : List (Nat × Text) :=
  (available.map fun a => (name.editDistance a, a)).filter fun a => a.1 ≤ suggestionReach name

/-- The candidates, nearest first. -/
def ranking (name : Text) (available : List Text) : List (Nat × Text) :=
  (candidates name available).mergeSort nearerOrEqual

/-- `y` stands no later than `x` among the names for `name`: it is nearer, or as near and not greater
in the order of bytes. -/
def NoLater (name y x : Text) : Prop :=
  name.editDistance y < name.editDistance x ∨
    name.editDistance y = name.editDistance x ∧ ¬ x.utf8 < y.utf8

section Ranking

variable {name x : Text} {available : List Text} {n : Nat}

theorem suggestions_eq_take (name : Text) (available : List Text) :
    suggestions name available = ((ranking name available).take 3).map Prod.snd := rfl

theorem mem_ranking_iff : (n, x) ∈ ranking name available ↔
    n = name.editDistance x ∧ x ∈ available ∧ name.editDistance x ≤ suggestionReach name := by
  rw [ranking, List.mem_mergeSort, candidates, List.mem_filter, List.mem_map]
  constructor
  · rintro ⟨⟨a, ha, heq⟩, hreach⟩
    obtain ⟨rfl, rfl⟩ := Prod.mk.inj heq
    exact ⟨rfl, ha, of_decide_eq_true hreach⟩
  · rintro ⟨rfl, hx, hreach⟩
    exact ⟨⟨x, hx, rfl⟩, decide_eq_true hreach⟩

theorem nearerOrEqual_iff {a b : Nat × Text} :
    nearerOrEqual a b = true ↔ a.1 < b.1 ∨ a.1 = b.1 ∧ ¬ b.2 < a.2 := by
  simp [nearerOrEqual]

/-- Texts that are not greater, one after the other. -/
theorem Text.not_lt_trans {s t u : Text} (hst : ¬ t < s) (htu : ¬ u < t) : ¬ u < s := by
  intro hus
  by_cases heq : t = s
  · exact htu (heq ▸ hus)
  · exact htu (List.lt_trans hus (Dict.lt_of_not_lt_of_ne hst heq))

theorem nearerOrEqual_trans (a b c : Nat × Text) (hab : nearerOrEqual a b = true)
    (hbc : nearerOrEqual b c = true) : nearerOrEqual a c = true := by
  rw [nearerOrEqual_iff] at hab hbc ⊢
  rcases hab with hab | ⟨hab, htext⟩
  · rcases hbc with hbc | ⟨hbc, -⟩
    · exact .inl (Nat.lt_trans hab hbc)
    · exact .inl (hbc ▸ hab)
  · rcases hbc with hbc | ⟨hbc, htext'⟩
    · exact .inl (hab ▸ hbc)
    · exact .inr ⟨hab.trans hbc, Text.not_lt_trans htext htext'⟩

theorem nearerOrEqual_total (a b : Nat × Text) :
    (nearerOrEqual a b || nearerOrEqual b a) = true := by
  rw [Bool.or_eq_true, nearerOrEqual_iff, nearerOrEqual_iff]
  rcases Nat.lt_trichotomy a.1 b.1 with h | h | h
  · exact .inl (.inl h)
  · by_cases htext : b.2 < a.2
    · exact .inr (.inr ⟨h.symm, List.lt_asymm htext⟩)
    · exact .inl (.inr ⟨h, htext⟩)
  · exact .inr (.inl h)

/-- The ranking is in order. -/
theorem pairwise_ranking (name : Text) (available : List Text) :
    (ranking name available).Pairwise fun a b => nearerOrEqual a b = true :=
  List.pairwise_mergeSort nearerOrEqual_trans nearerOrEqual_total _

theorem noLater_of_nearerOrEqual {y : Text}
    (h : nearerOrEqual (name.editDistance y, y) (name.editDistance x, x) = true) :
    NoLater name y x := by
  refine (nearerOrEqual_iff.mp h).imp_right fun ⟨hdist, htext⟩ => ⟨hdist, ?_⟩
  exact fun hlt => htext (Text.utf8_lt_utf8_iff.mp hlt)

/-- What the ranking leaves over after three stands behind three. -/
theorem of_mem_drop_ranking (h : (n, x) ∈ (ranking name available).drop 3) :
    ((ranking name available).take 3).length = 3 ∧
      ∀ a ∈ (ranking name available).take 3, NoLater name a.2 x := by
  have hlen : 3 < (ranking name available).length := by
    have hpos := List.length_pos_of_mem h
    rw [List.length_drop] at hpos
    omega
  have hpairs := pairwise_ranking name available
  rw [← List.take_append_drop 3 (ranking name available), List.pairwise_append] at hpairs
  refine ⟨by rw [List.length_take]; omega, fun ⟨m, y⟩ hy => noLater_of_nearerOrEqual ?_⟩
  obtain ⟨rfl, -⟩ := mem_ranking_iff.mp (List.mem_of_mem_take hy)
  obtain ⟨rfl, -⟩ := mem_ranking_iff.mp (List.mem_of_mem_drop h)
  exact hpairs.2.2 _ hy _ h

end Ranking

/-! ## 2. The reach -/

/-- The greatest distance at which a name is meant to be suggested for `name`: its characters are
counted. -/
def characterReach (name : Text) : Nat := if name.length ≤ 3 then 1 else 2

theorem Text.length_le_byteLength : ∀ s : Text, s.length ≤ s.byteLength
  | [] => Nat.le_refl 0
  | c :: s => by
    have hc : 0 < c.utf8Size := c.utf8Size_pos
    have hs := length_le_byteLength s
    rw [List.length_cons, Text.byteLength]
    omega

/-- **The reach is the one that is meant**, unless at most three characters take more than three
bytes. -/
theorem suggestionReach_eq_iff {name : Text} :
    suggestionReach name = characterReach name ↔ 3 < name.length ∨ name.byteLength ≤ 3 := by
  have hle := name.length_le_byteLength
  rw [suggestionReach, characterReach]
  split <;> split <;> omega

/-! ## 3. Suggestions -/

/-- **Names that are suggested for `name` within a reach**: they are available and not further away,
and an available name that is not further away is left out only for three that stand no later. -/
structure SuggestsWithin (reach : Nat) (name : Text) (available out : List Text) : Prop where
  offered : ∀ x ∈ out, x ∈ available
  near : ∀ x ∈ out, name.editDistance x ≤ reach
  full : ∀ x ∈ available, name.editDistance x ≤ reach → x ∉ out →
    out.length = 3 ∧ ∀ y ∈ out, NoLater name y x

/-- Suggestions are within the reach of the name. -/
theorem suggestsWithin_suggestionReach (name : Text) (available : List Text) :
    SuggestsWithin (suggestionReach name) name available (suggestions name available) := by
  have hmem : ∀ x ∈ suggestions name available, ∃ n, (n, x) ∈ (ranking name available).take 3 := by
    intro x hx
    obtain ⟨⟨n, x⟩, h, rfl⟩ := List.mem_map.mp hx
    exact ⟨n, h⟩
  refine ⟨fun x hx => ?_, fun x hx => ?_, fun x hx hreach hout => ?_⟩
  · obtain ⟨n, h⟩ := hmem x hx
    exact (mem_ranking_iff.mp (List.mem_of_mem_take h)).2.1
  · obtain ⟨n, h⟩ := hmem x hx
    exact (mem_ranking_iff.mp (List.mem_of_mem_take h)).2.2
  · have hranked : (name.editDistance x, x) ∈ ranking name available :=
      mem_ranking_iff.mpr ⟨rfl, hx, hreach⟩
    rw [← List.take_append_drop 3 (ranking name available), List.mem_append] at hranked
    obtain hfront | hback := hranked
    · exact absurd (List.mem_map.mpr ⟨_, hfront, rfl⟩) hout
    · obtain ⟨hlen, hbefore⟩ := of_mem_drop_ranking hback
      refine ⟨by rw [suggestions_eq_take, List.length_map, hlen], fun y hy => ?_⟩
      obtain ⟨m, hm⟩ := hmem y hy
      exact hbefore _ hm

/-- A name alone is suggested when it is within the reach. -/
theorem mem_suggestions_singleton {name x : Text} (h : name.editDistance x ≤ suggestionReach name) :
    x ∈ suggestions name [x] := by
  have hwithin := suggestsWithin_suggestionReach name [x]
  by_contra hout
  obtain ⟨hlen, -⟩ := hwithin.full x (List.mem_singleton_self x) h hout
  obtain ⟨y, hy⟩ := List.exists_mem_of_length_pos (by omega : 0 < (suggestions name [x]).length)
  exact hout (List.mem_singleton.mp (hwithin.offered y hy) ▸ hy)

/-- Suggestions that are always within the reach that is meant show that the two reaches are the
same: otherwise a name that is two insertions away would be suggested. -/
theorem suggestionReach_eq_of_within {name : Text}
    (h : ∀ available, SuggestsWithin (characterReach name) name available
      (suggestions name available)) : suggestionReach name = characterReach name := by
  have hfar : name.editDistance (name ++ "aa".toList) = 2 := name.editDistance_append _
  by_cases hbytes : name.byteLength ≤ 3
  · exact suggestionReach_eq_iff.mpr (.inr hbytes)
  · have hreach : suggestionReach name = 2 := if_neg hbytes
    have hmem : name ++ "aa".toList ∈ suggestions name [name ++ "aa".toList] :=
      mem_suggestions_singleton (by omega)
    have hnear : 2 ≤ characterReach name := hfar ▸ (h [name ++ "aa".toList]).near _ hmem
    have hlong : ¬ name.length ≤ 3 := fun hshort => by
      rw [characterReach, if_pos hshort] at hnear
      exact absurd hnear (by decide)
    exact suggestionReach_eq_iff.mpr (.inl (Nat.lt_of_not_le hlong))

/-- **Suggestions are the nearest of the names within reach.**  The distance is the least number of
edits.  What is suggested for a name is available and within its reach, and an available name within
reach is left out only for three that stand no later, by distance and then in the order of bytes.
The reach that is meant, which counts characters, bounds the suggestions for a name in the same way
exactly when the name has more than three characters or at most three bytes. -/
theorem suggestions_within (name : Text) :
    (∀ s t : Text, IsLeast {n | Text.Edits n s t} (s.editDistance t)) ∧
      (∀ available,
        SuggestsWithin (suggestionReach name) name available (suggestions name available)) ∧
      ((∀ available,
        SuggestsWithin (characterReach name) name available (suggestions name available)) ↔
          3 < name.length ∨ name.byteLength ≤ 3) := by
  refine ⟨Text.isLeast_editDistance, suggestsWithin_suggestionReach name, ?_⟩
  rw [← suggestionReach_eq_iff]
  refine ⟨suggestionReach_eq_of_within, fun heq available => ?_⟩
  rw [← heq]
  exact suggestsWithin_suggestionReach name available

namespace Sample

/-- Two characters in four bytes. -/
def accented : Text := "éé".toList

/-- A name of two characters is answered with one that is two edits away. -/
theorem suggestions_not_within_accented :
    characterReach accented = 1 ∧ accented.editDistance "ab".toList = 2 ∧
      suggestions accented ["ab".toList] = ["ab".toList] ∧
      ¬ SuggestsWithin (characterReach accented) accented ["ab".toList]
        (suggestions accented ["ab".toList]) := by
  have hreach : characterReach accented = 1 := by decide +kernel
  have hdist : accented.editDistance "ab".toList = 2 := by decide +kernel
  have hout : suggestions accented ["ab".toList] = ["ab".toList] := by decide +kernel
  refine ⟨hreach, hdist, hout, fun h => ?_⟩
  have hnear := h.near "ab".toList (by rw [hout]; exact List.mem_singleton_self _)
  rw [hdist, hreach] at hnear
  exact absurd hnear (by decide)

end Sample
end Stencil
