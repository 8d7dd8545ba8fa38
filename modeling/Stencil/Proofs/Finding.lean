/-
# The next token from an offset

`Delimiters.findAt` looks for the next token of a source from a byte offset on.  This file says what
it finds in terms of first occurrences, for every source, every offset and any two markers.

* `Text.dropBytes?_eq_some_iff`, `Text.dropBytes?_eq_none_iff`: there is a text from an offset on
  unless the offset is past the end or inside a character.
* `Delimiters.findAt_append`: the offset only shifts what is found.
* `Delimiters.next_of_first`: once the first start marker is known, the first end marker after it
  decides.
* `Delimiters.findAt_first_token`: when a token is found, when none is, and where a fault is
  reported.
-/
import Stencil.Proofs.Grammar

namespace Stencil

/-! ## 1. Offsets -/

namespace Text

variable {n : Nat} {s rest : Text}

/-- Byte offset `n` lies inside a character of `s`. -/
def Inside (s : Text) (n : Nat) : Prop :=
  ∃ a c b, s = a ++ c :: b ∧ byteLength a < n ∧ n < byteLength a + c.utf8Size

/-- The text from an offset on is what stands behind so many bytes. -/
theorem dropBytes?_eq_some_iff :
    dropBytes? n s = some rest ↔ ∃ before, s = before ++ rest ∧ byteLength before = n := by
  constructor
  · intro h
    fun_induction dropBytes? n s with
    | case1 s => exact ⟨[], Option.some.inj h, rfl⟩
    | case2 => contradiction
    | case3 n c s hc ih =>
      obtain ⟨before, rfl, hlen⟩ := ih h
      exact ⟨c :: before, rfl, by rw [byteLength]; omega⟩
    | case4 => contradiction
  · rintro ⟨before, rfl, rfl⟩
    exact dropBytes?_append before rest

/-- No first part of a text ends inside a character. -/
theorem not_inside_byteLength (before rest : Text) : ¬ (before ++ rest).Inside before.byteLength := by
  rintro ⟨a, c, b, heq, hlow, hhigh⟩
  rcases List.append_eq_append_iff.mp heq with ⟨x, rfl, -⟩ | ⟨x, rfl, hx⟩
  · rw [byteLength_append] at hlow
    omega
  · cases x with
    | nil =>
      rw [List.append_nil] at hlow
      exact Nat.lt_irrefl _ hlow
    | cons y x =>
      obtain ⟨rfl, -⟩ := List.cons.inj hx
      rw [byteLength_append, byteLength] at hhigh
      omega

/-- **There is no text from an offset on** past the end and inside a character only. -/
theorem dropBytes?_eq_none_iff : dropBytes? n s = none ↔ byteLength s < n ∨ s.Inside n := by
  constructor
  · intro h
    fun_induction dropBytes? n s with
    | case1 => contradiction
    | case2 n => exact .inl (Nat.succ_pos n)
    | case3 n c s hc ih =>
      rcases ih h with hlen | ⟨a, c', b, rfl, hlow, hhigh⟩
      · exact .inl (by rw [byteLength]; omega)
      · exact .inr ⟨c :: a, c', b, rfl, by rw [byteLength]; omega, by rw [byteLength]; omega⟩
    | case4 n c s hc => exact .inr ⟨[], c, s, rfl, Nat.succ_pos n, by rw [byteLength]; omega⟩
  · intro h
    cases hdrop : dropBytes? n s with
    | none => rfl
    | some rest =>
      obtain ⟨before, rfl, rfl⟩ := dropBytes?_eq_some_iff.mp hdrop
      rcases h with hlen | hinside
      · rw [byteLength_append] at hlen
        omega
      · exact absurd hinside (not_inside_byteLength before rest)

end Text

namespace Delimiters

variable {d : Delimiters} {rest lead inner : Text}

/-! ## 2. What is found at the front of a text -/

/-- What stands behind a start marker is a body up to the first end marker, without a start marker
in it. -/
structure Closes (d : Delimiters) (inner body after : Text) : Prop where
  stop : Text.First d.stop inner body after
  plain : ¬ d.start <:+: body

/-- There is a token behind the first start marker exactly when the marker is closed. -/
theorem opens_iff_of_first (h : Text.First d.start rest lead inner) {lead' body after : Text} :
    d.Opens rest lead' body after ↔ lead' = lead ∧ d.Closes inner body after := by
  constructor
  · intro hopens
    obtain ⟨rfl, rfl⟩ := h.unique hopens.start
    exact ⟨rfl, hopens.stop, hopens.plain⟩
  · rintro ⟨rfl, hstop, hplain⟩
    obtain rfl := hstop.eq
    exact ⟨h, hstop, hplain⟩

/-- **The first end marker decides** what stands behind the first start marker. -/
theorem next_of_first (h : Text.First d.start rest lead inner) :
    (∃ body after, d.Closes inner body after ∧ d.next rest = .token lead body after) ∨
      (∀ body after, ¬ d.Closes inner body after) ∧ d.next rest = .unmatched lead := by
  cases hnext : d.next rest with
  | literal => exact absurd ⟨lead, inner, h.eq.symm⟩ (next_eq_literal_iff.mp hnext)
  | token lead' body after =>
    obtain ⟨rfl, hcloses⟩ := (opens_iff_of_first h).mp (next_eq_token_iff.mp hnext)
    exact .inl ⟨body, after, hcloses, rfl⟩
  | unmatched lead' =>
    refine .inr ⟨fun body after hcloses => ?_, ?_⟩
    · have hopens := (opens_iff_of_first h).mpr ⟨rfl, hcloses⟩
      exact absurd (hnext.symm.trans (next_eq_token_iff.mpr hopens)) (by simp)
    · obtain ⟨inner', hunclosed⟩ := next_eq_unmatched_iff.mp hnext
      rw [(h.unique hunclosed.start).1]

/-! ## 3. What is found from an offset on -/

/-- What is found in a text, as it is counted with `n` more bytes before the text. -/
def shift (n : Nat) : Except Unmatched (Option Found) → Except Unmatched (Option Found)
  | .ok found => .ok (found.map fun f => { f with next := n + f.next })
  | .error e => .error { e with position := n + e.position }

/-- **The offset only shifts what is found.** -/
theorem findAt_append (d : Delimiters) (before rest : Text) :
    d.findAt (before ++ rest) before.byteLength = shift before.byteLength (d.findAt rest 0) := by
  simp only [findAt, Text.dropBytes?_append, Text.dropBytes?]
  cases d.next rest with
  | literal => rfl
  | unmatched lead => simp [shift]
  | token lead body after => simp [shift]

/-- Nothing is found exactly where there is no text or no start marker in it. -/
theorem findAt_eq_none_iff {source : Text} {pos : Nat} :
    d.findAt source pos = .ok none ↔
      source.byteLength < pos ∨ source.Inside pos ∨
        ∃ before rest, source = before ++ rest ∧ before.byteLength = pos ∧ ¬ d.start <:+: rest := by
  rw [← or_assoc, ← Text.dropBytes?_eq_none_iff, findAt]
  cases hdrop : Text.dropBytes? pos source with
  | none => simp
  | some s =>
    have hliteral : d.next s = .literal ↔ ∃ before rest, source = before ++ rest ∧
        before.byteLength = pos ∧ ¬ d.start <:+: rest := by
      rw [next_eq_literal_iff]
      constructor
      · intro h
        obtain ⟨before, heq, hlen⟩ := Text.dropBytes?_eq_some_iff.mp hdrop
        exact ⟨before, s, heq, hlen, h⟩
      · rintro ⟨before, rest, rfl, rfl, h⟩
        rw [Text.dropBytes?_append] at hdrop
        exact Option.some.inj hdrop ▸ h
    rw [← hliteral]
    cases hnext : d.next s <;> simp [hnext]

/-- **The next token from an offset on.**  Nothing is found exactly when the offset is past the end
or inside a character, or when no start marker stands in the text from the offset on.  Otherwise the
first start marker from the offset on and the first end marker after it decide: a token is found
when there is such an end marker and no start marker stands in the text before it, and else the
start marker is reported.  The text before the offset only shifts what is found. -/
theorem findAt_first_token (d : Delimiters) (source : Text) (pos : Nat) :
    (d.findAt source pos = .ok none ↔
        source.byteLength < pos ∨ source.Inside pos ∨
          ∃ before rest, source = before ++ rest ∧ before.byteLength = pos ∧
            ¬ d.start <:+: rest) ∧
      ∀ before rest, source = before ++ rest → before.byteLength = pos →
        d.findAt source pos = shift pos (d.findAt rest 0) ∧
          ∀ lead inner, Text.First d.start rest lead inner →
            (∀ found, d.findAt source pos = .ok (some found) ↔
              ∃ body after, d.Closes inner body after ∧
                found = ⟨lead, body.trim,
                  (before ++ (lead ++ d.start ++ body ++ d.stop)).byteLength⟩) ∧
            ∀ e, d.findAt source pos = .error e ↔
              (∀ body after, ¬ d.Closes inner body after) ∧
                e = ⟨d.start, (before ++ lead).byteLength⟩ := by
  refine ⟨findAt_eq_none_iff, ?_⟩
  rintro before rest rfl rfl
  refine ⟨findAt_append d before rest, fun lead inner hfirst => ?_⟩
  simp only [findAt, Text.dropBytes?_append, Text.byteLength_append before]
  rcases next_of_first hfirst with ⟨body, after, hcloses, hnext⟩ | ⟨hopen, hnext⟩
  · rw [hnext]
    constructor
    · intro found
      rw [Except.ok.injEq, Option.some.injEq]
      constructor
      · rintro rfl
        exact ⟨body, after, hcloses, rfl⟩
      · rintro ⟨body', after', hcloses', rfl⟩
        obtain ⟨rfl, -⟩ := hcloses.stop.unique hcloses'.stop
        rfl
    · intro e
      constructor
      · intro h
        contradiction
      · rintro ⟨hopen, -⟩
        exact absurd hcloses (hopen body after)
  · rw [hnext]
    constructor
    · intro found
      constructor
      · intro h
        contradiction
      · rintro ⟨body, after, hcloses, -⟩
        exact absurd hcloses (hopen body after)
    · intro e
      rw [Except.error.injEq, eq_comm, and_iff_right hopen]

end Delimiters

namespace Sample

/-- Offsets inside the first character, past the end, at a token and at a marker without an end. -/
theorem findAt_first_token_adjacent :
    overlapping.delimiters.findAt adjacent 1 = .ok none ∧
      overlapping.delimiters.findAt adjacent 12 = .ok none ∧
      adjacent = "é".toList ++ "%%b%%%c%d".toList ∧
      Text.First "%%".toList "%%b%%%c%d".toList [] "b%%%c%d".toList ∧
      overlapping.delimiters.findAt adjacent 2 = .ok (some ⟨[], "b".toList, 6⟩) ∧
      overlapping.delimiters.findAt adjacent 2 =
        Delimiters.shift 2 (overlapping.delimiters.findAt "%%b%%%c%d".toList 0) ∧
      unended = "é%%b%".toList ++ "%%c".toList ∧
      Text.First "%%".toList "%%c".toList [] "c".toList ∧
      overlapping.delimiters.findAt unended 6 = .error ⟨"%%".toList, 6⟩ := by
  have hstart : Text.First "%%".toList "%%b%%%c%d".toList [] "b%%%c%d".toList :=
    Text.cut?_eq_some_iff.mp (by decide +kernel)
  have hcloses : overlapping.delimiters.Closes "b%%%c%d".toList "b".toList "%%c%d".toList :=
    ⟨Text.cut?_eq_some_iff.mp (by decide +kernel), by decide +kernel⟩
  have hstarts : Text.First "%%".toList "%%c".toList [] "c".toList :=
    Text.cut?_eq_some_iff.mp (by decide +kernel)
  have hopen : ∀ body after, ¬ overlapping.delimiters.Closes "c".toList body after := by
    intro body after hcloses
    have hin : "%".toList <:+: "c".toList := ⟨body, after, hcloses.stop.eq.symm⟩
    exact absurd hin (by decide +kernel)
  obtain ⟨hinside, -⟩ := Delimiters.findAt_first_token overlapping.delimiters adjacent 1
  obtain ⟨hpast, -⟩ := Delimiters.findAt_first_token overlapping.delimiters adjacent 12
  obtain ⟨-, hfrom⟩ := Delimiters.findAt_first_token overlapping.delimiters adjacent 2
  obtain ⟨-, hrest⟩ := Delimiters.findAt_first_token overlapping.delimiters unended 6
  obtain ⟨hshift, htoken⟩ := hfrom "é".toList _ rfl rfl
  obtain ⟨hfound, -⟩ := htoken [] _ hstart
  obtain ⟨-, hfault⟩ := (hrest "é%%b%".toList _ rfl rfl).2 [] _ hstarts
  refine ⟨hinside.mpr (.inr (.inl ⟨[], 'é', _, rfl, by decide, by decide⟩)),
    hpast.mpr (.inl (by decide +kernel)), rfl, hstart, ?_, hshift, rfl, hstarts, ?_⟩
  · exact (hfound _).mpr ⟨_, _, hcloses, by decide +kernel⟩
  · exact (hfault _).mpr ⟨hopen, by decide +kernel⟩

end Sample
end Stencil
