/-
# Segments: a text cut at its markers

The first token of a text starts at the first start marker and ends at the first end marker
after it.  A start marker is unmatched when no end marker follows, or when another start
marker stands before the first end marker.

* `Delimiters.next`: the first token and the rest after it;
* `Delimiters.segments`: the whole text as literal parts and token bodies, up to its end or
  its first unmatched marker;
* `Delimiters.findAt`: the first token from a byte offset on.

A token takes at least the characters of its markers away (`length_rest_lt`), so cutting ends.
-/
import Stencil.Delimiters
import Stencil.Text.Quoted

namespace Stencil

/-- A start marker without a proper end: the marker, and where it stands in the text, counted
in bytes. -/
structure Unmatched where
  delimiter : Text
  position : Nat
deriving DecidableEq

/-- The wording of the fault. -/
def Unmatched.message (e : Unmatched) : Text :=
  "unmatched delimiter ".toList ++ e.delimiter.quote ++ " at position ".toList
    ++ Text.ofNat e.position

/-- What a text starts with. -/
inductive Next
  /-- No start marker: all of it is literal. -/
  | literal
  /-- A literal part, then a start marker without a proper end. -/
  | unmatched (lead : Text)
  /-- A literal part, a token between markers, and the rest. -/
  | token (lead body rest : Text)
deriving DecidableEq

/-- A text as its literal parts and token bodies in order.  Bodies are as they stand between
the markers, blanks included. -/
inductive Segments
  | tail (text : Text)
  | unmatched (position : Nat)
  | token (lead body : Text) (rest : Segments)
deriving DecidableEq

namespace Delimiters

/-- Finds the first token. -/
def next (d : Delimiters) (s : Text) : Next :=
  match Text.cut? d.start s with
  | none => .literal
  | some (lead, inner) =>
    match Text.cut? d.stop inner with
    | none => .unmatched lead
    | some (body, rest) =>
      if Text.occurs d.start body then .unmatched lead else .token lead body rest

/-- A token and its markers make up the text before the rest. -/
theorem eq_of_next {d : Delimiters} {s lead body rest : Text}
    (h : d.next s = .token lead body rest) :
    s = lead ++ d.start ++ body ++ d.stop ++ rest := by
  simp only [next] at h
  split at h
  · simp at h
  · next lead' inner h1 =>
    split at h
    · simp at h
    · next body' rest' h2 =>
      split at h
      · simp at h
      · simp only [Next.token.injEq] at h
        obtain ⟨rfl, rfl, rfl⟩ := h
        simp [Text.eq_of_cut? h1, Text.eq_of_cut? h2]

/-- The rest after a token is shorter. -/
theorem length_rest_lt {d : Delimiters} {s lead body rest : Text}
    (h : d.next s = .token lead body rest) : rest.length < s.length := by
  have : 0 < d.start.length := List.length_pos_iff.mpr d.start_ne_nil
  rw [eq_of_next h]
  simp
  omega

/-- The bytes of a token with its markers and the literal part before it. -/
def span (d : Delimiters) (lead body : Text) : Nat :=
  Text.byteLength (lead ++ d.start ++ body ++ d.stop)

/-- Cuts a text that starts at byte `pos` of its source. -/
def segments (d : Delimiters) (pos : Nat) (s : Text) : Segments :=
  match _h : d.next s with
  | .literal => .tail s
  | .unmatched lead => .unmatched (pos + Text.byteLength lead)
  | .token lead body rest => .token lead body (d.segments (pos + d.span lead body) rest)
termination_by s.length
decreasing_by exact length_rest_lt _h

/-- A token found at or after some offset: the literal part before it, its body without
blanks around, and the offset just past its end marker. -/
structure Found where
  lead : Text
  token : Text
  next : Nat
deriving DecidableEq

/-- The first token of `source` from byte offset `pos` on; none past the end and inside a
character. -/
def findAt (d : Delimiters) (source : Text) (pos : Nat) : Except Unmatched (Option Found) :=
  match Text.dropBytes? pos source with
  | none => .ok none
  | some s =>
    match d.next s with
    | .literal => .ok none
    | .unmatched lead => .error ⟨d.start, pos + Text.byteLength lead⟩
    | .token lead body _ => .ok (some ⟨lead, body.trim, pos + d.span lead body⟩)

/-- All tokens from byte offset `pos` on, and the fault that ended the search, if any. -/
def found (d : Delimiters) (pos : Nat) : Segments → List Found × Option Unmatched
  | .tail _ => ([], none)
  | .unmatched position => ([], some ⟨d.start, position⟩)
  | .token lead body rest =>
    let next := pos + d.span lead body
    let more := d.found next rest
    (⟨lead, body.trim, next⟩ :: more.1, more.2)

/-- Every token of `source` from byte offset `pos` on. -/
def findAll (d : Delimiters) (source : Text) (pos : Nat) : List Found × Option Unmatched :=
  match Text.dropBytes? pos source with
  | none => ([], none)
  | some s => d.found pos (d.segments pos s)

end Delimiters
end Stencil
