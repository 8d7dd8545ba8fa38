/-
# The grammar of texts

Which texts compile, said without a scanner.  A text is in the grammar when it is literal text and
tokens in turn,

    p₁ start b₁ stop .. pₙ start bₙ stop r

where each `pᵢ` ends at the first start marker and each `bᵢ` at the first end marker after it, and
where no start marker stands in a `bᵢ` or in `r`.  The markers are any two texts that are not
empty: they may be equal, or overlap, or hold each other.

* `Text.First`: a text at the first occurrence of another, with `Text.cut?_eq_some_iff`.
* `Delimiters.Opens`, `Delimiters.Unclosed`: what the scanner decides about the front of a text
  (`next_eq_token_iff`, `next_eq_unmatched_iff`, `next_eq_literal_iff`).
* `Delimiters.Cuts`: parts cut off the front of a text, one resume point after the other.  Cuts are
  unique (`Cuts.unique`) and are what scanning finds (`segments_of_cuts`, `cuts_of_segments`).
* `Engine.compile_accepts_grammar`: compiling accepts the grammar and nothing else, and reports the
  first marker that leaves it.
-/
import Stencil.Proofs.Pieces

namespace Stencil

/-! ## 1. First occurrences -/

namespace Text

variable {w s a b a' b' : Text}

/-- `s` is `a`, then `w`, then `b`, and no occurrence of `w` in `s` starts earlier. -/
structure First (w s a b : Text) : Prop where
  eq : s = a ++ w ++ b
  le : ∀ {a' b' : Text}, s = a' ++ w ++ b' → a.length ≤ a'.length

theorem First.unique (h : First w s a b) (h' : First w s a' b') : a = a' ∧ b = b' := by
  have hlen : a.length = a'.length := Nat.le_antisymm (h.le h'.eq) (h'.le h.eq)
  have happ : a ++ (w ++ b) = a' ++ (w ++ b') := by
    rw [← List.append_assoc, ← List.append_assoc, ← h.eq, ← h'.eq]
  obtain ⟨rfl, hrest⟩ := List.append_inj happ hlen
  exact ⟨rfl, List.append_cancel_left hrest⟩

/-- A cut is the first occurrence. -/
theorem cut?_eq_some_iff : cut? w s = some (a, b) ↔ First w s a b := by
  constructor
  · intro h
    exact ⟨eq_of_cut? h, length_le_of_cut? h⟩
  · intro h
    cases hcut : cut? w s with
    | none => exact absurd h.eq (cut?_eq_none_iff.mp hcut a b)
    | some p =>
      obtain ⟨rfl, rfl⟩ := h.unique ⟨eq_of_cut? hcut, length_le_of_cut? hcut⟩
      rfl

/-- Without an occurrence there is no cut. -/
theorem cut?_eq_none_iff_not_isInfix : cut? w s = none ↔ ¬ w <:+: s := by
  rw [cut?_eq_none_iff]
  constructor
  · rintro h ⟨a, b, hab⟩
    exact h a b hab.symm
  · intro h a b hab
    exact h ⟨a, b, hab.symm⟩

theorem occurs_iff : occurs w s = true ↔ w <:+: s := by
  rw [occurs, ← not_iff_not, ← cut?_eq_none_iff_not_isInfix]
  simp

end Text

namespace Delimiters

variable {d : Delimiters} {s lead inner body after rest : Text} {parts : List (Text × Text)}

/-! ## 2. The front of a text -/

/-- The first token of `s`: literal text up to the first start marker, and a body up to the first
end marker after it, without a start marker in it. -/
structure Opens (d : Delimiters) (s lead body after : Text) : Prop where
  start : Text.First d.start s lead (body ++ d.stop ++ after)
  stop : Text.First d.stop (body ++ d.stop ++ after) body after
  plain : ¬ d.start <:+: body

/-- The first start marker of `s` has no proper end: no end marker follows, or a whole start marker
stands before the first one that does. -/
structure Unclosed (d : Delimiters) (s lead inner : Text) : Prop where
  start : Text.First d.start s lead inner
  fault : ¬ d.stop <:+: inner ∨
    ∃ body after, Text.First d.stop inner body after ∧ d.start <:+: body

theorem next_eq_literal_iff : d.next s = .literal ↔ ¬ d.start <:+: s := by
  rw [← Text.cut?_eq_none_iff_not_isInfix, next]
  split
  · next h => simp [h]
  · next h =>
    rw [h]
    split
    · simp
    · split <;> simp

theorem next_eq_token_iff : d.next s = .token lead body after ↔ d.Opens s lead body after := by
  constructor
  · intro h
    simp only [next] at h
    split at h
    · contradiction
    · next lead' inner hstart =>
      split at h
      · contradiction
      · next body' after' hstop =>
        split at h
        · contradiction
        · next hocc =>
          obtain ⟨rfl, rfl, rfl⟩ := Next.token.inj h
          have hinner : inner = body' ++ d.stop ++ after' := Text.eq_of_cut? hstop
          rw [hinner] at hstart hstop
          exact ⟨Text.cut?_eq_some_iff.mp hstart, Text.cut?_eq_some_iff.mp hstop,
            fun hin => hocc (Text.occurs_iff.mpr hin)⟩
  · rintro ⟨hstart, hstop, hplain⟩
    have hocc : ¬ Text.occurs d.start body = true := fun h => hplain (Text.occurs_iff.mp h)
    simp only [next, Text.cut?_eq_some_iff.mpr hstart, Text.cut?_eq_some_iff.mpr hstop]
    rw [if_neg hocc]

theorem next_eq_unmatched_iff :
    d.next s = .unmatched lead ↔ ∃ inner, d.Unclosed s lead inner := by
  constructor
  · intro h
    simp only [next] at h
    split at h
    · contradiction
    · next lead' inner hstart =>
      have hfirst := Text.cut?_eq_some_iff.mp hstart
      split at h
      · next hstop =>
        obtain rfl := Next.unmatched.inj h
        exact ⟨inner, hfirst, .inl (Text.cut?_eq_none_iff_not_isInfix.mp hstop)⟩
      · next body after hstop =>
        split at h
        · next hocc =>
          obtain rfl := Next.unmatched.inj h
          exact ⟨inner, hfirst,
            .inr ⟨body, after, Text.cut?_eq_some_iff.mp hstop, Text.occurs_iff.mp hocc⟩⟩
        · contradiction
  · rintro ⟨inner, hstart, hnone | ⟨body, after, hstop, hin⟩⟩
    · simp only [next, Text.cut?_eq_some_iff.mpr hstart,
        Text.cut?_eq_none_iff_not_isInfix.mpr hnone]
    · simp only [next, Text.cut?_eq_some_iff.mpr hstart, Text.cut?_eq_some_iff.mpr hstop]
      rw [if_pos (Text.occurs_iff.mpr hin)]

theorem Opens.eq (h : d.Opens s lead body after) : s = lead ++ d.placeholder body ++ after := by
  rw [h.start.eq]
  simp [placeholder]

/-- A text opens with one token at most. -/
theorem Opens.unique {lead' body' after' : Text} (h : d.Opens s lead body after)
    (h' : d.Opens s lead' body' after') : lead = lead' ∧ body = body' ∧ after = after' := by
  have htoken := (next_eq_token_iff.mpr h).symm.trans (next_eq_token_iff.mpr h')
  exact Next.token.inj htoken

/-- A text that opens with a token holds a start marker. -/
theorem Opens.isInfix (h : d.Opens s lead body after) : d.start <:+: s :=
  ⟨lead, body ++ d.stop ++ after, h.start.eq.symm⟩

/-! ## 3. Parts cut off a text -/

/-- Parts as they stand in a text, with their markers. -/
def written (d : Delimiters) (parts : List (Text × Text)) : Text :=
  parts.flatMap fun p => p.1 ++ d.placeholder p.2

/-- The byte offset just past some parts. -/
def offset (d : Delimiters) (parts : List (Text × Text)) : Nat := (d.written parts).byteLength

/-- **The parts are cut off the front of the text**, token by token, and leave `rest`. -/
inductive Cuts (d : Delimiters) : Text → List (Text × Text) → Text → Prop
  | nil {s : Text} : Cuts d s [] s
  | cons {s lead body after rest : Text} {parts : List (Text × Text)}
      (hopens : d.Opens s lead body after) (hcuts : Cuts d after parts rest) :
      Cuts d s ((lead, body) :: parts) rest

/-- A text in the grammar: its parts, and a rest without a start marker. -/
structure Grammatical (d : Delimiters) (s : Text) (parts : List (Text × Text)) (rest : Text) :
    Prop where
  cuts : d.Cuts s parts rest
  literal : ¬ d.start <:+: rest

theorem written_cons (lead body : Text) (parts : List (Text × Text)) :
    d.written ((lead, body) :: parts) = lead ++ d.placeholder body ++ d.written parts := rfl

theorem written_append (parts parts' : List (Text × Text)) :
    d.written (parts ++ parts') = d.written parts ++ d.written parts' :=
  List.flatMap_append

theorem offset_cons (lead body : Text) (parts : List (Text × Text)) :
    d.offset ((lead, body) :: parts) = d.span lead body + d.offset parts := by
  rw [offset, written_cons, Text.byteLength_append, span, placeholder, offset,
    ← List.append_assoc, ← List.append_assoc]

theorem offset_concat (parts : List (Text × Text)) (lead body : Text) :
    d.offset (parts ++ [(lead, body)]) = d.offset parts + d.span lead body := by
  rw [offset, written_append, Text.byteLength_append]
  exact congrArg (d.offset parts + ·) (d.offset_cons lead body [])

/-- A token takes at least the bytes of its markers. -/
theorem markers_le_span (d : Delimiters) (lead body : Text) :
    d.start.byteLength + d.stop.byteLength ≤ d.span lead body := by
  simp only [span, Text.byteLength_append]
  omega

/-- Parts and rest make up the text. -/
theorem Cuts.eq (h : d.Cuts s parts rest) : s = d.written parts ++ rest := by
  induction h with
  | nil => rfl
  | cons hopens _ ih =>
    rw [hopens.eq, ih, written_cons]
    simp only [List.append_assoc]

/-- **A resume point is a character boundary**: the rest starts at the offset past the parts. -/
theorem Cuts.dropBytes? (h : d.Cuts s parts rest) :
    Text.dropBytes? (d.offset parts) s = some rest := by
  rw [h.eq]
  exact Text.dropBytes?_append (d.written parts) rest

/-- **Cuts are unique** when they stop at the same kind of place. -/
theorem Cuts.unique {parts' : List (Text × Text)} {rest' : Text} (h : d.Cuts s parts rest)
    (hrest : ¬ d.start <:+: rest) (h' : d.Cuts s parts' rest') (hrest' : ¬ d.start <:+: rest') :
    parts = parts' ∧ rest = rest' := by
  induction h generalizing parts' with
  | nil =>
    cases h' with
    | nil => exact ⟨rfl, rfl⟩
    | cons hopens' _ => exact absurd hopens'.isInfix hrest
  | cons hopens _ ih =>
    cases h' with
    | nil => exact absurd hopens.isInfix hrest'
    | cons hopens' hcuts' =>
      obtain ⟨rfl, rfl, rfl⟩ := hopens.unique hopens'
      obtain ⟨rfl, rfl⟩ := ih hrest hcuts'
      exact ⟨rfl, rfl⟩

/-- Scanning goes on behind parts that are cut off. -/
theorem segments_of_cuts (h : d.Cuts s parts rest) (pos : Nat) :
    d.segments pos s = .after parts (d.segments (pos + d.offset parts) rest) := by
  induction h generalizing pos with
  | nil => rfl
  | @cons _ lead body after _ parts hopens _ ih =>
    rw [segments_of_token (next_eq_token_iff.mpr hopens), ih, offset_cons, Nat.add_assoc]
    rfl

/-- The parts that scanning finds are cut off, and the scan of the rest is what follows. -/
theorem cuts_of_segments {last : Segments} : ∀ {parts : List (Text × Text)} {pos : Nat} {s : Text},
    d.segments pos s = .after parts last →
      ∃ rest, d.Cuts s parts rest ∧ d.segments (pos + d.offset parts) rest = last
  | [], pos, s, h => ⟨s, .nil, h⟩
  | (lead, body) :: parts, pos, s, h => by
    obtain ⟨after, hnext, hsegs⟩ := next_of_segments_token h
    obtain ⟨rest, hcuts, hlast⟩ := cuts_of_segments hsegs
    refine ⟨rest, .cons (next_eq_token_iff.mp hnext) hcuts, ?_⟩
    rw [offset_cons, ← Nat.add_assoc]
    exact hlast

/-- **Scanning ends in a literal rest on the grammar only.** -/
theorem segments_eq_tail_iff {pos : Nat} :
    d.segments pos s = .after parts (.tail rest) ↔ d.Grammatical s parts rest := by
  constructor
  · intro h
    obtain ⟨rest', hcuts, hlast⟩ := cuts_of_segments h
    obtain ⟨hnext, rfl⟩ := next_of_segments_tail hlast
    exact ⟨hcuts, next_eq_literal_iff.mp hnext⟩
  · rintro ⟨hcuts, hliteral⟩
    rw [segments_of_cuts hcuts, segments_of_literal (next_eq_literal_iff.mpr hliteral)]

/-- Where scanning ends at an unmatched marker, the parts before it are cut off. -/
theorem unclosed_of_segments {pos position : Nat}
    (h : d.segments pos s = .after parts (.unmatched position)) :
    ∃ rest lead inner, d.Cuts s parts rest ∧ d.Unclosed rest lead inner ∧
      position = pos + d.offset parts + lead.byteLength := by
  obtain ⟨rest, hcuts, hlast⟩ := cuts_of_segments h
  obtain ⟨lead, hnext, hpos⟩ := next_of_segments_unmatched hlast
  obtain ⟨inner, hunclosed⟩ := next_eq_unmatched_iff.mp hnext
  exact ⟨rest, lead, inner, hcuts, hunclosed, hpos⟩

/-- Cutting goes on where it stopped. -/
theorem Cuts.concat (h : d.Cuts s parts rest) (hopens : d.Opens rest lead body after) :
    d.Cuts s (parts ++ [(lead, body)]) after := by
  induction h with
  | nil => exact .cons hopens .nil
  | cons hfirst _ ih => exact .cons hfirst (ih hopens)

/-- **The next token is found from its resume point**, and the next resume point is its end. -/
theorem findAt_of_cuts (h : d.Cuts s parts rest) (hopens : d.Opens rest lead body after) :
    d.findAt s (d.offset parts) =
      .ok (some ⟨lead, body.trim, d.offset (parts ++ [(lead, body)])⟩) := by
  simp only [findAt, h.dropBytes?, next_eq_token_iff.mpr hopens, offset_concat]

/-- Nothing is found in a rest without a start marker. -/
theorem findAt_of_literal (h : d.Cuts s parts rest) (hliteral : ¬ d.start <:+: rest) :
    d.findAt s (d.offset parts) = .ok none := by
  simp only [findAt, h.dropBytes?, next_eq_literal_iff.mpr hliteral]

end Delimiters

/-! ## 4. Compiling -/

namespace Engine

open Delimiters

variable {E : Engine} {s : Text}

/-- Parts and a literal rest compile after whatever text waits for its token. -/
theorem exists_compileSegments_of_parts (E : Engine) (rest : Text) :
    ∀ (parts : List (Text × Text)) (pending : Text),
      ∃ r, E.compileSegments pending (.after parts (.tail rest)) = .ok r
  | [], pending => ⟨([], pending ++ rest), rfl⟩
  | (lead, body) :: parts, pending => by
    simp only [Segments.after, compileSegments]
    cases E.bodies.get? (E.aliases.resolve (Token.split body.trim).1) with
    | none =>
      obtain ⟨r, hr⟩ := exists_compileSegments_of_parts E rest parts []
      simp only [hr]
      exact ⟨_, rfl⟩
    | some b =>
      obtain ⟨r, hr⟩ := exists_compileSegments_of_parts E rest parts (b.splice (pending ++ lead)).2
      simp only [hr]
      exact ⟨_, rfl⟩

/-- A text without a fault compiles. -/
theorem exists_compile_of_segments {parts : List (Text × Text)} {rest : Text}
    (h : E.delimiters.segments 0 s = .after parts (.tail rest)) : ∃ t, E.compile s = .ok t := by
  obtain ⟨⟨chunks, tail⟩, hr⟩ := E.exists_compileSegments_of_parts rest parts []
  exact ⟨⟨chunks, tail, E.delimiters⟩, by rw [compile, h, hr]⟩

/-- **The texts that compile are the texts in the grammar.** -/
theorem exists_compile_iff :
    (∃ t, E.compile s = .ok t) ↔ ∃ parts rest, E.delimiters.Grammatical s parts rest := by
  constructor
  · rintro ⟨t, ht⟩
    obtain ⟨parts, rest, hscan⟩ := exists_parts_of_compile ht
    exact ⟨parts, rest, segments_eq_tail_iff.mp hscan⟩
  · rintro ⟨parts, rest, h⟩
    exact exists_compile_of_segments (segments_eq_tail_iff.mpr h)

/-- A text that does not compile is scanned up to the marker that is reported. -/
theorem exists_unmatched_of_compile {e : Unmatched} (h : E.compile s = .error e) :
    ∃ parts, E.delimiters.segments 0 s = .after parts (.unmatched e.position) ∧
      e.delimiter = E.delimiters.start := by
  obtain ⟨parts, ⟨rest, hscan⟩ | ⟨position, hscan⟩⟩ := (E.delimiters.segments 0 s).exists_parts
  · obtain ⟨t, ht⟩ := exists_compile_of_segments hscan
    exact absurd (h.symm.trans ht) (by simp)
  · rw [compile, hscan, compileSegments_of_unmatched] at h
    obtain rfl := Except.error.inj h
    exact ⟨parts, hscan, rfl⟩

/-- **The marker that is reported** stands where the report says, the text before it compiles, and
it has no proper end. -/
theorem unclosed_of_compile {e : Unmatched} (h : E.compile s = .error e) :
    ∃ before inner, s = before ++ (E.delimiters.start ++ inner) ∧
      before.byteLength = e.position ∧ (∃ t, E.compile before = .ok t) ∧
        (¬ E.delimiters.stop <:+: inner ∨
          ∃ body after, Text.First E.delimiters.stop inner body after ∧
            E.delimiters.start <:+: body) := by
  obtain ⟨parts, hscan, -⟩ := exists_unmatched_of_compile h
  obtain ⟨rest, lead, inner, hcuts, hunclosed, hpos⟩ := unclosed_of_segments hscan
  obtain ⟨before, x, last, hs, hlen, hbefore⟩ := exists_before_unmatched hscan
  rw [Nat.zero_add] at hpos hlen
  -- the text before the fault is known by its length, so what follows is the marker
  have hmarker : s = E.delimiters.written parts ++ lead ++ (E.delimiters.start ++ inner) := by
    rw [hcuts.eq, hunclosed.start.eq]
    simp only [List.append_assoc]
  have hdrop : Text.dropBytes? e.position s = some (E.delimiters.start ++ inner) := by
    rw [hpos, offset, ← Text.byteLength_append, hmarker]
    exact Text.dropBytes?_append _ _
  have hx : x = E.delimiters.start ++ inner := by
    rw [← hlen, hs, Text.dropBytes?_append] at hdrop
    exact Option.some.inj hdrop
  exact ⟨before, inner, hx ▸ hs, hlen, exists_compile_of_segments hbefore, hunclosed.fault⟩

/-- **Compiling accepts the grammar.**  A text compiles exactly when it is literal text and tokens
in turn, read at first occurrences, and it is so in one way only.  Every resume point on the way is
a character boundary of the text, from which the scanner finds the next token, at least the bytes of
both markers further on.  A text that does not compile is reported at a start marker: the text
before it compiles, and after it no end marker follows, or another start marker stands before the
first. -/
theorem compile_accepts_grammar (E : Engine) (source : Text) :
    ((∃ t, E.compile source = .ok t) ↔
        ∃ parts rest, E.delimiters.Grammatical source parts rest) ∧
      (∀ parts rest parts' rest', E.delimiters.Grammatical source parts rest →
        E.delimiters.Grammatical source parts' rest' → parts = parts' ∧ rest = rest') ∧
      (∀ parts rest, E.delimiters.Cuts source parts rest →
        source = E.delimiters.written parts ++ rest ∧
          Text.dropBytes? (E.delimiters.offset parts) source = some rest ∧
          (¬ E.delimiters.start <:+: rest →
            E.delimiters.findAt source (E.delimiters.offset parts) = .ok none) ∧
          ∀ lead body after, E.delimiters.Opens rest lead body after →
            E.delimiters.findAt source (E.delimiters.offset parts) =
                .ok (some ⟨lead, body.trim, E.delimiters.offset (parts ++ [(lead, body)])⟩) ∧
              E.delimiters.Cuts source (parts ++ [(lead, body)]) after ∧
              E.delimiters.offset parts +
                  (E.delimiters.start.byteLength + E.delimiters.stop.byteLength) ≤
                E.delimiters.offset (parts ++ [(lead, body)])) ∧
      ∀ e, E.compile source = .error e → e.delimiter = E.delimiters.start ∧
        ∃ before inner, source = before ++ (E.delimiters.start ++ inner) ∧
          before.byteLength = e.position ∧
          Text.dropBytes? e.position source = some (E.delimiters.start ++ inner) ∧
          (∃ t, E.compile before = .ok t) ∧
          (¬ E.delimiters.stop <:+: inner ∨
            ∃ body after, Text.First E.delimiters.stop inner body after ∧
              E.delimiters.start <:+: body) := by
  refine ⟨exists_compile_iff, ?_, ?_, ?_⟩
  · intro parts rest parts' rest' h h'
    exact h.cuts.unique h.literal h'.cuts h'.literal
  · intro parts rest h
    refine ⟨h.eq, h.dropBytes?, findAt_of_literal h, ?_⟩
    intro lead body after hopens
    refine ⟨findAt_of_cuts h hopens, h.concat hopens, ?_⟩
    rw [offset_concat]
    exact Nat.add_le_add_left (markers_le_span _ lead body) _
  · intro e he
    obtain ⟨parts, -, hdelim⟩ := exists_unmatched_of_compile he
    obtain ⟨before, inner, hs, hlen, hbefore, hfault⟩ := unclosed_of_compile he
    refine ⟨hdelim, before, inner, hs, hlen, ?_, hbefore, hfault⟩
    rw [← hlen, hs]
    exact Text.dropBytes?_append before _

end Engine

namespace Sample

/-- An engine whose start marker begins with its end marker. -/
def overlapping : Engine :=
  { Engine.plain with delimiters := ⟨"%%".toList, "%".toList, by decide, by decide⟩ }

/-- Two tokens in a row, so that three markers stand side by side. -/
def adjacent : Text := "é%%b%%%c%d".toList

/-- The second token has no end. -/
def unended : Text := "é%%b%%%c".toList

theorem compile_accepts_adjacent :
    overlapping.delimiters.Grammatical adjacent
        [("é".toList, "b".toList), ([], "c".toList)] "d".toList ∧
      (∃ t, overlapping.compile adjacent = .ok t) ∧
      (∀ parts rest, overlapping.delimiters.Grammatical adjacent parts rest →
        parts = [("é".toList, "b".toList), ([], "c".toList)] ∧ rest = "d".toList) ∧
      overlapping.delimiters.findAt adjacent 6 = .ok (some ⟨[], "c".toList, 10⟩) ∧
      overlapping.delimiters.findAt adjacent 10 = .ok none ∧
      overlapping.compile unended = .error ⟨"%%".toList, 6⟩ ∧
      ∃ before inner, unended = before ++ ("%%".toList ++ inner) ∧ before.byteLength = 6 ∧
        (∃ t, overlapping.compile before = .ok t) ∧
        (¬ "%".toList <:+: inner ∨
          ∃ body after, Text.First "%".toList inner body after ∧ "%%".toList <:+: body) := by
  have hscan : overlapping.delimiters.segments 0 adjacent =
      .after [("é".toList, "b".toList), ([], "c".toList)] (.tail "d".toList) := by decide +kernel
  have hread := Delimiters.segments_eq_tail_iff.mp hscan
  have herror : overlapping.compile unended = .error ⟨"%%".toList, 6⟩ := by decide +kernel
  obtain ⟨haccept, hunique, hresume, -⟩ := Engine.compile_accepts_grammar overlapping adjacent
  obtain ⟨-, -, -, hfault⟩ := Engine.compile_accepts_grammar overlapping unended
  obtain ⟨-, before, inner, hs, hlen, -, hbefore, hopen⟩ := hfault _ herror
  obtain ⟨-, -, hend, -⟩ := hresume _ _ hread.cuts
  -- the second token is the first of what the first one leaves
  have hcuts : overlapping.delimiters.Cuts adjacent [("é".toList, "b".toList)] "%%c%d".toList :=
    .cons (Delimiters.next_eq_token_iff.mp (by decide +kernel)) .nil
  obtain ⟨-, -, -, hnext⟩ := hresume _ _ hcuts
  have hfound := (hnext [] "c".toList "d".toList
    (Delimiters.next_eq_token_iff.mp (by decide +kernel))).1
  exact ⟨hread, haccept.mpr ⟨_, _, hread⟩, fun _ _ h => hunique _ _ _ _ h hread,
    hfound, hend hread.literal, herror, before, inner, hs, hlen, hbefore, hopen⟩

end Sample
end Stencil
