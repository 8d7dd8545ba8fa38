/-
# Scanned texts

Cutting a text at its markers gives literal parts and token bodies in turn, and after them the
literal rest or an unmatched marker.  This file reads the cut as such a list of parts.

* `Segments.after`: parts in front of segments.  Every cut is some parts in front of a literal
  rest or of an unmatched marker (`Segments.exists_parts`).
* `Delimiters.eq_of_segments`: the parts, written with their markers, and the rest make up the text.
* `Delimiters.next_of_append`: a token that ends before the end of the text is found without the
  text after it.
* `Delimiters.exists_before_unmatched`: what stands before an unmatched marker is cut into the same
  parts and has no fault.
-/
import Stencil.Segments

namespace Stencil

/-! ## 1. Parts -/

/-- Parts in front of segments.  A part is literal text and the token body after it. -/
def Segments.after : List (Text × Text) → Segments → Segments
  | [], last => last
  | (lead, body) :: parts, last => .token lead body (after parts last)

/-- Segments are parts in front of a literal rest or of an unmatched marker. -/
theorem Segments.exists_parts : ∀ segs : Segments, ∃ parts,
    (∃ rest, segs = .after parts (.tail rest)) ∨
      ∃ position, segs = .after parts (.unmatched position)
  | .tail rest => ⟨[], .inl ⟨rest, rfl⟩⟩
  | .unmatched position => ⟨[], .inr ⟨position, rfl⟩⟩
  | .token lead body segs => by
    obtain ⟨parts, ⟨rest, rfl⟩ | ⟨position, rfl⟩⟩ := exists_parts segs
    · exact ⟨(lead, body) :: parts, .inl ⟨rest, rfl⟩⟩
    · exact ⟨(lead, body) :: parts, .inr ⟨position, rfl⟩⟩

namespace Delimiters

variable {d : Delimiters} {pos : Nat} {s lead body rest : Text}

/-! ## 2. One step of cutting -/

theorem segments_of_literal (h : d.next s = .literal) : d.segments pos s = .tail s := by
  rw [segments]
  split
  · rfl
  · next h' => rw [h] at h'; contradiction
  · next h' => rw [h] at h'; contradiction

theorem segments_of_unmatched (h : d.next s = .unmatched lead) :
    d.segments pos s = .unmatched (pos + lead.byteLength) := by
  rw [segments]
  split
  · next h' => rw [h] at h'; contradiction
  · next h' =>
    rw [h] at h'
    obtain rfl := Next.unmatched.inj h'
    rfl
  · next h' => rw [h] at h'; contradiction

theorem segments_of_token (h : d.next s = .token lead body rest) :
    d.segments pos s = .token lead body (d.segments (pos + d.span lead body) rest) := by
  rw [segments]
  split
  · next h' => rw [h] at h'; contradiction
  · next h' => rw [h] at h'; contradiction
  · next h' =>
    rw [h] at h'
    obtain ⟨rfl, rfl, rfl⟩ := Next.token.inj h'
    rfl

/-- A cut with no token and no fault is the text itself. -/
theorem next_of_segments_tail (h : d.segments pos s = .tail rest) :
    d.next s = .literal ∧ rest = s := by
  cases hn : d.next s with
  | literal =>
    rw [segments_of_literal hn] at h
    exact ⟨rfl, (Segments.tail.inj h).symm⟩
  | unmatched lead =>
    rw [segments_of_unmatched hn] at h
    contradiction
  | token lead body rest' =>
    rw [segments_of_token hn] at h
    contradiction

/-- A cut that is a fault has its position from the literal text before it. -/
theorem next_of_segments_unmatched {position : Nat} (h : d.segments pos s = .unmatched position) :
    ∃ lead, d.next s = .unmatched lead ∧ position = pos + lead.byteLength := by
  cases hn : d.next s with
  | literal =>
    rw [segments_of_literal hn] at h
    contradiction
  | unmatched lead =>
    rw [segments_of_unmatched hn] at h
    exact ⟨lead, rfl, (Segments.unmatched.inj h).symm⟩
  | token lead body rest' =>
    rw [segments_of_token hn] at h
    contradiction

/-- A cut that starts with a token goes on with the cut of the rest. -/
theorem next_of_segments_token {segs : Segments} (h : d.segments pos s = .token lead body segs) :
    ∃ rest, d.next s = .token lead body rest ∧
      d.segments (pos + d.span lead body) rest = segs := by
  cases hn : d.next s with
  | literal =>
    rw [segments_of_literal hn] at h
    contradiction
  | unmatched lead' =>
    rw [segments_of_unmatched hn] at h
    contradiction
  | token lead' body' rest =>
    rw [segments_of_token hn] at h
    obtain ⟨rfl, rfl, hsegs⟩ := Segments.token.inj h
    exact ⟨rest, rfl, hsegs⟩

/-- **The parts and the rest make up the text.** -/
theorem eq_of_segments : ∀ {parts : List (Text × Text)} {pos : Nat} {s : Text},
    d.segments pos s = .after parts (.tail rest) →
      s = (parts.flatMap fun p => p.1 ++ d.placeholder p.2) ++ rest
  | [], pos, s, h => by
    obtain ⟨-, rfl⟩ := next_of_segments_tail h
    rfl
  | (lead, body) :: parts, pos, s, h => by
    obtain ⟨rest', hn, hsegs⟩ := next_of_segments_token h
    rw [eq_of_next hn, eq_of_segments hsegs]
    simp [placeholder]

/-! ## 3. The text after a token -/

/-- A first occurrence is found without the text after it. -/
theorem cut?_of_append {w a b x : Text} (h : Text.cut? w (s ++ x) = some (a, b ++ x)) :
    Text.cut? w s = some (a, b) := by
  have hs : s = a ++ w ++ b := by
    have happ := Text.eq_of_cut? h
    rw [← List.append_assoc] at happ
    exact List.append_cancel_right happ
  cases hcut : Text.cut? w s with
  | none => exact absurd hs (Text.cut?_eq_none_iff.mp hcut a b)
  | some p =>
    obtain ⟨a', b'⟩ := p
    have hs' := Text.eq_of_cut? hcut
    have hle : a'.length ≤ a.length := Text.length_le_of_cut? hcut hs
    have hsx : s ++ x = a' ++ w ++ (b' ++ x) := by rw [hs', List.append_assoc]
    have hge : a.length ≤ a'.length := Text.length_le_of_cut? h hsx
    rw [hs, List.append_assoc, List.append_assoc] at hs'
    obtain ⟨rfl, hrest⟩ := List.append_inj hs' (by omega)
    rw [List.append_cancel_left hrest]

/-- **A token is found without the text after it.** -/
theorem next_of_append {x : Text} (h : d.next (s ++ x) = .token lead body (rest ++ x)) :
    d.next s = .token lead body rest := by
  simp only [next] at h
  split at h
  · contradiction
  · next lead' inner hstart =>
    split at h
    · contradiction
    · next body' rest' hstop =>
      split at h
      · contradiction
      · next hocc =>
        obtain ⟨rfl, rfl, rfl⟩ := Next.token.inj h
        have hinner : inner = body' ++ d.stop ++ rest ++ x := by
          rw [Text.eq_of_cut? hstop, List.append_assoc _ rest x]
        rw [hinner] at hstart hstop
        simp only [next, cut?_of_append hstart, cut?_of_append hstop]
        rw [if_neg hocc]

/-- Before the first start marker stands no start marker. -/
theorem next_of_cut {inner : Text} (h : Text.cut? d.start s = some (lead, inner)) :
    d.next lead = .literal := by
  have hnone : Text.cut? d.start lead = none := by
    rw [Text.cut?_eq_none_iff]
    intro a b hlead
    have hs : s = a ++ d.start ++ (b ++ d.start ++ inner) := by
      rw [Text.eq_of_cut? h, hlead]
      simp
    have hle := Text.length_le_of_cut? h hs
    have hpos : 0 < d.start.length := List.length_pos_iff.mpr d.start_ne_nil
    rw [hlead, List.length_append, List.length_append] at hle
    omega
  simp [next, hnone]

/-! ## 4. The text before an unmatched marker -/

/-- An unmatched marker stands after literal text. -/
theorem eq_of_next_unmatched (h : d.next s = .unmatched lead) :
    d.next lead = .literal ∧ ∃ inner, s = lead ++ (d.start ++ inner) := by
  simp only [next] at h
  split at h
  · contradiction
  · next lead' inner hstart =>
    have hlead : lead' = lead := by
      split at h
      · exact Next.unmatched.inj h
      · split at h
        · exact Next.unmatched.inj h
        · contradiction
    subst hlead
    refine ⟨next_of_cut hstart, inner, ?_⟩
    rw [Text.eq_of_cut? hstart, List.append_assoc]

/-- **The text before an unmatched marker is cut into the same parts**, and a literal rest.  It is
as long as the position of the fault says. -/
theorem exists_before_unmatched {position : Nat} : ∀ {parts : List (Text × Text)} {pos : Nat}
    {s : Text}, d.segments pos s = .after parts (.unmatched position) →
      ∃ a x lead, s = a ++ x ∧ pos + a.byteLength = position ∧
        d.segments pos a = .after parts (.tail lead)
  | [], pos, s, h => by
    obtain ⟨lead, hn, hpos⟩ := next_of_segments_unmatched h
    obtain ⟨hlead, inner, hs⟩ := eq_of_next_unmatched hn
    exact ⟨lead, d.start ++ inner, lead, hs, hpos.symm, segments_of_literal hlead⟩
  | (lead, body) :: parts, pos, s, h => by
    obtain ⟨rest, hn, hsegs⟩ := next_of_segments_token h
    obtain ⟨a, x, last, rfl, hpos, ha⟩ := exists_before_unmatched hsegs
    have hs : s = lead ++ d.start ++ body ++ d.stop ++ a ++ x := by
      rw [eq_of_next hn, List.append_assoc _ a x]
    rw [hs] at hn
    refine ⟨lead ++ d.start ++ body ++ d.stop ++ a, x, last, hs, ?_, ?_⟩
    · rw [← hpos, Text.byteLength_append, span, Nat.add_assoc]
    · rw [segments_of_token (next_of_append hn), ha, Segments.after]

end Delimiters
end Stencil
