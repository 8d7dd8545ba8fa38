/-
# Texts in a row

A text is followed by another one.  Where no start marker begins in the literal rest of the first
text, not even one that ends in the second, the two are cut where each of them is cut by itself: the
parts of the first, its rest in front of the first literal of the second, and then the parts of the
second.  So compiling and rendering take the two texts one after the other.

* `Delimiters.Seam`: no start marker begins before the second text.
* `Segments.behind`, `Segments.shift`: segments with literal text in front, and further on in the
  source.  `Delimiters.segments_append`: how two texts in a row are cut.
* `Segments.fault?`: where a cut ends in a fault, which is what compiling depends on
  (`Engine.exists_compile_iff_fault?`, `Engine.compile_error_iff`).
* `Meaning.token_ne_parse`: tokens do not fail as markers do, so that the shift of positions meets
  the fault of the second text and nothing else (`Meaning.segments_shift`).
* `Engine.replace_append`: the second text is rendered behind what the first appended.
* `Engine.calls_append`: what calls with two texts in a row come to.
-/
import Stencil.Proofs.Independence
import Stencil.Proofs.ReadBack

namespace Stencil

/-! ## 1. Cutting two texts in a row -/

/-- Segments with literal text in front. -/
def Segments.behind (front : Text) : Segments → Segments
  | .tail s => .tail (front ++ s)
  | .unmatched position => .unmatched position
  | .token lead body rest => .token (front ++ lead) body rest

/-- Segments of a text that stands so many bytes further on. -/
def Segments.shift (bytes : Nat) : Segments → Segments
  | .tail s => .tail s
  | .unmatched position => .unmatched (bytes + position)
  | .token lead body rest => .token lead body (rest.shift bytes)

namespace Delimiters

variable {d : Delimiters} {s r a c lead body after : Text} {parts : List (Text × Text)}

/-- **No start marker begins in `r`** when `c` follows: each that stands in the two begins in `c`. -/
def Seam (d : Delimiters) (r c : Text) : Prop :=
  ∀ x y, r ++ c = x ++ d.start ++ y → r.length ≤ x.length

/-- A start marker behind a seam stands in the second text. -/
theorem Seam.exists_of_eq (h : d.Seam r c) {x y : Text} (heq : r ++ c = x ++ d.start ++ y) :
    ∃ x', x = r ++ x' ∧ c = x' ++ d.start ++ y := by
  have hlen : r.length ≤ x.length := h x y heq
  rw [List.append_assoc] at heq
  obtain ⟨x', rfl⟩ : r <+: x :=
    List.prefix_of_prefix_length_le ⟨c, heq⟩ (List.prefix_append x _) hlen
  refine ⟨x', rfl, ?_⟩
  rw [List.append_assoc] at heq
  rw [List.append_cancel_left heq, List.append_assoc]

/-- The first start marker behind a seam is the first of the second text. -/
theorem Seam.cut? (h : d.Seam r c) :
    Text.cut? d.start (r ++ c) = (Text.cut? d.start c).map fun p => (r ++ p.1, p.2) := by
  cases hc : Text.cut? d.start c with
  | none =>
    rw [Text.cut?_eq_none_iff] at hc
    refine Text.cut?_eq_none_iff.mpr fun x y heq => ?_
    obtain ⟨x', -, hx'⟩ := h.exists_of_eq heq
    exact hc x' y hx'
  | some p =>
    have hfirst : Text.First d.start c p.1 p.2 := Text.cut?_eq_some_iff.mp hc
    refine Text.cut?_eq_some_iff.mpr ⟨?_, fun {x y} heq => ?_⟩
    · rw [hfirst.eq]
      simp only [List.append_assoc]
    · obtain ⟨x', rfl, hx'⟩ := h.exists_of_eq heq
      have hle := hfirst.le hx'
      simp only [List.length_append]
      omega

/-- What the two texts start with is what the second starts with, behind the first. -/
theorem Seam.next (h : d.Seam r c) : d.next (r ++ c) =
    match d.next c with
    | .literal => .literal
    | .unmatched lead => .unmatched (r ++ lead)
    | .token lead body rest => .token (r ++ lead) body rest := by
  simp only [Delimiters.next, h.cut?]
  cases Text.cut? d.start c with
  | none => rfl
  | some p =>
    obtain ⟨lead, inner⟩ := p
    simp only [Option.map_some]
    cases Text.cut? d.stop inner with
    | none => rfl
    | some q =>
      obtain ⟨body, rest⟩ := q
      cases hocc : Text.occurs d.start body <;> simp [hocc]

/-- **Literal text in front of a text** goes into its first literal. -/
theorem Seam.segments (h : d.Seam r c) (pos : Nat) :
    d.segments pos (r ++ c) = (d.segments (pos + r.byteLength) c).behind r := by
  have hnext := h.next
  cases hc : d.next c with
  | literal =>
    rw [hc] at hnext
    rw [segments_of_literal hnext, segments_of_literal hc, Segments.behind]
  | unmatched lead =>
    rw [hc] at hnext
    rw [segments_of_unmatched hnext, segments_of_unmatched hc, Segments.behind,
      Text.byteLength_append, Nat.add_assoc]
  | token lead body rest =>
    rw [hc] at hnext
    have hspan : d.span (r ++ lead) body = r.byteLength + d.span lead body := by
      simp only [span, List.append_assoc, Text.byteLength_append]
    rw [segments_of_token hnext, segments_of_token hc, Segments.behind, hspan, Nat.add_assoc]

/-- **A text further on is cut in the same way**, and its positions are further on. -/
theorem segments_shift (bytes pos : Nat) (s : Text) :
    d.segments (bytes + pos) s = (d.segments pos s).shift bytes := by
  cases hs : d.next s with
  | literal => rw [segments_of_literal hs, segments_of_literal hs, Segments.shift]
  | unmatched lead =>
    rw [segments_of_unmatched hs, segments_of_unmatched hs, Segments.shift, Nat.add_assoc]
  | token lead body rest =>
    have hlt : rest.length < s.length := length_rest_lt hs
    rw [segments_of_token hs, segments_of_token hs, Segments.shift, Nat.add_assoc,
      segments_shift bytes (pos + d.span lead body) rest]
termination_by s.length

/-- A token opens a text whatever comes after the text. -/
theorem Opens.append (h : d.Opens s lead body after) (c : Text) :
    d.Opens (s ++ c) lead body (after ++ c) := by
  have hstart := h.start.front.append (body ++ d.stop ++ (after ++ c))
  have hstop := h.stop.front.append (after ++ c)
  refine ⟨?_, hstop, h.plain⟩
  have heq : s ++ c = lead ++ d.start ++ (body ++ d.stop ++ (after ++ c)) := by
    rw [h.start.eq]
    simp only [List.append_assoc]
  rw [heq]
  exact hstart

/-- Parts are cut off a text whatever comes after the text. -/
theorem Cuts.append (h : d.Cuts a parts r) (c : Text) : d.Cuts (a ++ c) parts (r ++ c) := by
  induction h with
  | nil => exact .nil
  | cons hopens _ ih => exact .cons (hopens.append c) ih

/-- **Two texts in a row are cut as each of them is by itself.** -/
theorem segments_append (ha : d.Grammatical a parts r) (hseam : d.Seam r c) :
    d.segments 0 (a ++ c) =
      .after parts (((d.segments 0 c).shift a.byteLength).behind r) := by
  have hlen : d.offset parts + r.byteLength = a.byteLength := by
    rw [ha.cuts.eq, Text.byteLength_append, offset]
  rw [segments_of_cuts (ha.cuts.append c), hseam.segments, Nat.zero_add, hlen,
    ← segments_shift, Nat.add_zero]

end Delimiters

/-! ## 2. Faults -/

/-- Where the fault is that a cut ends in. -/
def Segments.fault? : Segments → Option Nat
  | .tail _ => none
  | .unmatched position => some position
  | .token _ _ rest => rest.fault?

namespace Segments

theorem fault?_after (last : Segments) : ∀ parts : List (Text × Text),
    (after parts last).fault? = last.fault?
  | [] => rfl
  | _ :: parts => fault?_after last parts

theorem fault?_behind (front : Text) (segs : Segments) :
    (segs.behind front).fault? = segs.fault? := by
  cases segs <;> rfl

theorem fault?_shift (bytes : Nat) : ∀ segs : Segments,
    (segs.shift bytes).fault? = segs.fault?.map (bytes + ·)
  | .tail _ => rfl
  | .unmatched _ => rfl
  | .token _ _ rest => fault?_shift bytes rest

end Segments

/-- The fault of a text that stands so many bytes further on. -/
def Unmatched.shift (bytes : Nat) (e : Unmatched) : Unmatched :=
  ⟨e.delimiter, bytes + e.position⟩

namespace Engine

variable {E : Engine} {s : Text}

/-- A text compiles exactly when it is cut without a fault. -/
theorem exists_compile_iff_fault? :
    (∃ t, E.compile s = .ok t) ↔ (E.delimiters.segments 0 s).fault? = none := by
  obtain ⟨parts, ⟨rest, hscan⟩ | ⟨position, hscan⟩⟩ := (E.delimiters.segments 0 s).exists_parts
  · rw [hscan, Segments.fault?_after]
    exact ⟨fun _ => rfl, fun _ => exists_compile_of_segments hscan⟩
  · rw [hscan, Segments.fault?_after, compile, hscan, compileSegments_of_unmatched]
    simp [Segments.fault?]

/-- **Compiling reports the fault** that the text is cut to. -/
theorem compile_error_iff {e : Unmatched} : E.compile s = .error e ↔
    e.delimiter = E.delimiters.start ∧
      (E.delimiters.segments 0 s).fault? = some e.position := by
  obtain ⟨parts, ⟨rest, hscan⟩ | ⟨position, hscan⟩⟩ := (E.delimiters.segments 0 s).exists_parts
  · obtain ⟨t, ht⟩ := exists_compile_of_segments hscan
    rw [ht, hscan, Segments.fault?_after]
    simp [Segments.fault?]
  · rw [compile, hscan, compileSegments_of_unmatched, Segments.fault?_after]
    obtain ⟨delimiter, position'⟩ := e
    simp [Segments.fault?, eq_comm]

end Engine

/-! ## 3. Rendering two texts in a row -/

/-- The failure of a call for a text that stands so many bytes further on: the fault of the text is
further on, and any other failure stays what it is. -/
def Failure.shift (bytes : Nat) : Failure → Failure
  | .error (.parse e) => .error (.parse (e.shift bytes))
  | e => e

namespace Meaning

variable {E : Engine} {vs : Bindings} {nested : Text → Template → Writing}

/-- An outcome is known by what a call makes of it. -/
theorem onto_inj {out : Bytes} {x y : Outcome} (h : onto out x = onto out y) : x = y := by
  cases x <;> cases y <;> simp_all [onto]

/-- What comes to a failure as a text does that is further on. -/
def shift (bytes : Nat) (x : Writing) : Writing :=
  fun before => (x before).mapError (Failure.shift bytes)

theorem shift_of_ne {bytes : Nat} {e : Failure} (h : ∀ u, e ≠ .error (.parse u)) :
    e.shift bytes = e := by
  cases e with
  | unprintable => rfl
  | error e =>
    cases e with
    | parse u => exact absurd rfl (h u)
    | _ => rfl

theorem leaf_ne_parse {name suffix : Text} {u : Unmatched} {before : Bytes}
    (hn : ∀ name t, nested name t before ≠ .error (.error (.parse u))) :
    leaf E vs nested name suffix before ≠ .error (.error (.parse u)) := by
  intro h
  obtain hfalse | ⟨-, t, -, ht⟩ := leaf_error h
  · exact hfalse.elim
  · exact hn name t ht

/-- **Bound templates do not fail as markers do.**  The induction is on the levels left. -/
theorem bound_ne_parse (u : Unmatched) : ∀ (left : Nat) (before : Bytes) (name : Text)
    (t : Template), bound E vs left name t before ≠ .error (.error (.parse u))
  | 0, _, _, _ => by simp [bound, fail]
  | left + 1, before, name, t => by
    intro h
    rw [bound, chunks_eq_pieces] at h
    obtain ⟨k, before', -, hleaf⟩ := pieces_error h
    exact leaf_ne_parse (bound_ne_parse u left before') hleaf

/-- Nor do the tokens of a text. -/
theorem token_ne_parse (u : Unmatched) (left : Nat) (name suffix : Text) (before : Bytes) :
    token E vs (bound E vs left) name suffix before ≠ .error (.error (.parse u)) := by
  intro h
  rw [token] at h
  cases hb : E.bodies.get? name with
  | none =>
    rw [hb] at h
    exact leaf_ne_parse (bound_ne_parse u left before) h
  | some b =>
    rw [hb] at h
    have hpieces : pieces E vs (bound E vs left) b.pieces before = .error (.error (.parse u)) :=
      (congrFun (pieces_body b) before).trans h
    obtain ⟨k, before', -, hleaf⟩ := pieces_error hpieces
    exact leaf_ne_parse (bound_ne_parse u left before') hleaf

/-- What does not fail as a marker does has nothing to shift. -/
theorem shift_seq {bytes : Nat} {x : Writing}
    (hx : ∀ u before, x before ≠ .error (.error (.parse u))) (y : Writing) :
    shift bytes (seq x y) = seq x (shift bytes y) := by
  funext before
  cases h : x before with
  | error e =>
    have he : e.shift bytes = e :=
      shift_of_ne fun u hu => hx u before (h.trans (congrArg Except.error hu))
    rw [shift, seq_of_error h, seq_of_error h, Except.mapError, he]
  | ok a =>
    rw [shift, seq_of_ok h, seq_of_ok h, shift]
    cases y (before ++ a) <;> rfl

/-- Segments with literal text in front mean the text, and then what they meant. -/
theorem segments_behind (front : Text) (segs : Segments) :
    segments E vs nested (segs.behind front) = seq (text front) (segments E vs nested segs) := by
  cases segs with
  | tail s => exact (seq_text_text front s).symm
  | unmatched position => rfl
  | token lead inner rest =>
    simp only [Segments.behind, segments, ← seq_text_text, seq_assoc]

/-- **Segments further on mean the same**, but for the position of their fault. -/
theorem segments_shift (bytes left : Nat) : ∀ segs : Segments,
    segments E vs (bound E vs left) (segs.shift bytes) =
      shift bytes (segments E vs (bound E vs left) segs)
  | .tail s => rfl
  | .unmatched position => rfl
  | .token lead inner rest => by
    have htext : ∀ u before, text lead before ≠ .error (.error (.parse u)) :=
      fun u before h => by simp [text] at h
    rw [Segments.shift, segments, segments, segments_shift bytes left rest, shift_seq htext,
      shift_seq fun u => token_ne_parse u left _ _]

/-- **Two texts in a row mean what the first means, and then what the second means.** -/
theorem inline_append {a c r : Text} {parts : List (Text × Text)}
    (ha : E.delimiters.Grammatical a parts r) (hseam : E.delimiters.Seam r c) :
    inline E vs (a ++ c) = seq (inline E vs a) (shift a.byteLength (inline E vs c)) := by
  have hscan : E.delimiters.segments 0 a = .after parts (.tail r) :=
    Delimiters.segments_eq_tail_iff.mpr ha
  rw [inline, inline, inline, Delimiters.segments_append ha hseam, hscan, segments_after,
    segments_after, segments_behind, segments_shift, segments, seq_assoc]

end Meaning

/-! ## 4. Calls -/

/-- Two texts in a row are rendered one after the other. -/
theorem Engine.replace_append {E : Engine} {vs : Bindings} {a c r : Text}
    {parts : List (Text × Text)} (ha : E.delimiters.Grammatical a parts r)
    (hseam : E.delimiters.Seam r c) (out : Bytes) : E.replace out (a ++ c) vs =
      match E.replace out a vs with
      | (.error f, _) => (.error f, out)
      | (.ok _, out') =>
        match E.replace out' c vs with
        | (.ok _, out'') => (.ok (), out'')
        | (.error f, _) => (.error (f.shift a.byteLength), out) := by
  simp only [replace_eq, Meaning.inline_append ha hseam]
  cases hx : Meaning.inline E vs a out with
  | error f =>
    rw [Meaning.seq_of_error hx]
    rfl
  | ok x =>
    rw [Meaning.seq_of_ok hx, Meaning.shift]
    simp only [Meaning.onto]
    cases Meaning.inline E vs c (out ++ x) with
    | error f => rfl
    | ok y => simp [Except.mapError, Except.map]

/-- **Compiling and rendering go through two texts in a row one after the other.**  The first text
compiles and leaves the literal rest `r`, in which no start marker begins when the second text
follows.  Then the two compile exactly when the second does, and the fault of the second is reported
as many bytes further on as the first has.  A render call with the two renders the first text, and
then the second behind what the first appended; the failure of the first decides, and otherwise that
of the second, further on when it is a fault, and nothing is appended then.  With independent
bindings each of the two texts comes to the same behind all bytes, so that their outputs stand in a
row. -/
theorem Engine.calls_append (E : Engine) {a c r : Text} {parts : List (Text × Text)}
    (ha : E.delimiters.Grammatical a parts r) (hseam : E.delimiters.Seam r c) :
    (∃ t, E.compile a = .ok t) ∧
      ((∃ t, E.compile (a ++ c) = .ok t) ↔ ∃ t, E.compile c = .ok t) ∧
      (∀ e, E.compile (a ++ c) = .error e ↔
        ∃ e', E.compile c = .error e' ∧ e = e'.shift a.byteLength) ∧
      ∀ vs : Bindings,
        (∀ out, E.replace out (a ++ c) vs =
          match E.replace out a vs with
          | (.error f, _) => (.error f, out)
          | (.ok _, out') =>
            match E.replace out' c vs with
            | (.ok _, out'') => (.ok (), out'')
            | (.error f, _) => (.error (f.shift a.byteLength), out)) ∧
          (vs.Independent → ∃ first second : Outcome,
            (∀ out, E.replace out a vs = Meaning.onto out first) ∧
              (∀ out, E.replace out c vs = Meaning.onto out second) ∧
              ∀ out, E.replace out (a ++ c) vs =
                match first, second with
                | .ok x, .ok y => (.ok (), out ++ x ++ y)
                | .ok _, .error f => (.error (f.shift a.byteLength), out)
                | .error f, _ => (.error f, out)) := by
  have hfault : (E.delimiters.segments 0 (a ++ c)).fault? =
      (E.delimiters.segments 0 c).fault?.map (a.byteLength + ·) := by
    rw [Delimiters.segments_append ha hseam, Segments.fault?_after, Segments.fault?_behind,
      Segments.fault?_shift]
  refine ⟨exists_compile_iff.mpr ⟨parts, r, ha⟩, ?_, fun e => ?_, fun vs => ?_⟩
  · rw [exists_compile_iff_fault?, exists_compile_iff_fault?, hfault, Option.map_eq_none_iff]
  · rw [compile_error_iff, hfault, Option.map_eq_some_iff]
    constructor
    · rintro ⟨hd, position, hposition, he⟩
      refine ⟨⟨E.delimiters.start, position⟩, compile_error_iff.mpr ⟨rfl, hposition⟩, ?_⟩
      rw [Unmatched.shift, ← hd, he]
    · rintro ⟨e', he', rfl⟩
      obtain ⟨hd, hposition⟩ := compile_error_iff.mp he'
      exact ⟨hd, e'.position, hposition, rfl⟩
  · have hcalls := @replace_append E vs _ _ _ _ ha hseam
    refine ⟨hcalls, fun hvs => ⟨Meaning.inline E vs a [], Meaning.inline E vs c [],
      fun out => replace_of_independent hvs out [] a, fun out => replace_of_independent hvs out [] c,
      fun out => ?_⟩⟩
    simp only [hcalls, fun out => replace_of_independent (E := E) hvs out [] a,
      fun out => replace_of_independent (E := E) hvs out [] c]
    cases Meaning.inline E vs a [] with
    | error f => rfl
    | ok x => cases Meaning.inline E vs c [] <;> rfl

namespace Sample

/-- A token, and a rest that ends in a part of a start marker. -/
def opening : Text := "é%%b%x%".toList

/-- Literal text that keeps the two parts of the marker away from each other, and a token. -/
def closing : Text := "y%%c%.".toList

/-- The same without an end marker. -/
def unclosing : Text := "y%%c".toList

def letters : Bindings := [("b".toList, .string "B".toList), ("c".toList, .string "C".toList)]

theorem calls_append_opening :
    overlapping.delimiters.Grammatical opening [("é".toList, "b".toList)] "x%".toList ∧
      overlapping.delimiters.Seam "x%".toList closing ∧
      overlapping.delimiters.Seam "x%".toList unclosing ∧
      (∃ t, overlapping.compile (opening ++ closing) = .ok t) ∧
      overlapping.compile (opening ++ unclosing) = .error ⟨"%%".toList, 9⟩ ∧
      overlapping.replace [0x2D] (opening ++ closing) letters =
        (.ok (), Text.utf8 "-éBx%yC.".toList) ∧
      overlapping.replace [0x2D] (opening ++ unclosing) letters =
        (.error (.error (.parse ⟨"%%".toList, 9⟩)), [0x2D]) := by
  have hscan : overlapping.delimiters.segments 0 opening =
      .after [("é".toList, "b".toList)] (.tail "x%".toList) := by decide +kernel
  have hopening := Delimiters.segments_eq_tail_iff.mp hscan
  -- the first start marker stands behind the seam, and so do all others
  have hcut : Text.cut? overlapping.delimiters.start ("x%".toList ++ closing) =
      some ("x%y".toList, "c%.".toList) := by decide +kernel
  have hcut' : Text.cut? overlapping.delimiters.start ("x%".toList ++ unclosing) =
      some ("x%y".toList, "c".toList) := by decide +kernel
  have hclosing : overlapping.delimiters.Seam "x%".toList closing :=
    fun x y h => Nat.le_trans (by decide) (Text.length_le_of_cut? hcut h)
  have hunclosing : overlapping.delimiters.Seam "x%".toList unclosing :=
    fun x y h => Nat.le_trans (by decide) (Text.length_le_of_cut? hcut' h)
  have hcompile : ∃ t, overlapping.compile closing = .ok t :=
    Engine.exists_compile_iff_fault?.mpr (by decide +kernel)
  have herror : overlapping.compile unclosing = .error ⟨"%%".toList, 1⟩ := by decide +kernel
  obtain ⟨-, hiff, -, hcalls⟩ := overlapping.calls_append hopening hclosing
  obtain ⟨-, -, hfault, hcalls'⟩ := overlapping.calls_append hopening hunclosing
  have hletters : Bindings.Independent letters := by
    simp [Bindings.Independent, letters, Value.Independent]
  obtain ⟨x, y, hx, hy, hreplace⟩ := (hcalls letters).2 hletters
  obtain ⟨x', e, hx', he, hreplace'⟩ := (hcalls' letters).2 hletters
  obtain rfl := Meaning.onto_inj ((overlapping.replace_eq [] letters opening).symm.trans (hx []))
  obtain rfl := Meaning.onto_inj ((overlapping.replace_eq [] letters closing).symm.trans (hy []))
  obtain rfl := Meaning.onto_inj ((overlapping.replace_eq [] letters opening).symm.trans (hx' []))
  obtain rfl := Meaning.onto_inj ((overlapping.replace_eq [] letters unclosing).symm.trans (he []))
  refine ⟨hopening, hclosing, hunclosing, hiff.mpr hcompile, (hfault _).mpr ⟨_, herror, rfl⟩, ?_, ?_⟩
  · rw [hreplace]
    decide +kernel
  · rw [hreplace']
    decide +kernel

end Sample
end Stencil
