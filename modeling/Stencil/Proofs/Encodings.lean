/-
# What encoded forms are made of

The forms that the encoding filters write are made of few bytes, all of them in ASCII, whatever bytes
are encoded.

* `Hex.lt_of_mem_encode`, `Base64.lt_of_mem_encode`: hexadecimal digits and base 64 are in ASCII.
* `Form.Written`, `Form.written_of_mem_encode`: form encoding writes plain bytes, `+` and percent
  escapes, whose digits are plain; so it is in ASCII, too (`Form.Written.lt`).
* `Percent.mem_encodeText`: a text with escapes holds these bytes and characters that need no escape.
-/
import Stencil.Filter

namespace Stencil

/-! ## 1. Hexadecimal digits -/

namespace Hex

theorem highHalf_lt (b : UInt8) : b >>> 4 < 16 := by
  have hb := b.toNat_lt
  rw [UInt8.lt_iff_toNat_lt, UInt8.toNat_shiftRight]
  simp [Nat.shiftRight_eq_div_pow]
  omega

theorem lowHalf_lt (b : UInt8) : b &&& 15 < 16 := by
  rw [UInt8.lt_iff_toNat_lt, UInt8.toNat_and]
  exact Nat.lt_succ_of_le Nat.and_le_right

theorem digit_lt {n : UInt8} (h : n < 16) : digit n < 0x80 := by
  grind [digit]

/-- Hexadecimal digits are in ASCII. -/
theorem lt_of_mem_encode {v : Bytes} {x : UInt8} (h : x ∈ encode v) : x < 0x80 := by
  obtain ⟨b, -, hx⟩ := List.mem_flatMap.mp h
  simp only [encodeByte, List.mem_cons, List.not_mem_nil, or_false] at hx
  rcases hx with rfl | rfl
  · exact digit_lt (highHalf_lt b)
  · exact digit_lt (lowHalf_lt b)

end Hex

/-! ## 2. Base 64 -/

namespace Base64

/-- Both digits of the alphabet's own are in ASCII. -/
def Alphabet.Ascii (a : Alphabet) : Prop := a.sixtyTwo < 0x80 ∧ a.sixtyThree < 0x80

theorem ascii_standard : standard.Ascii := ⟨by decide, by decide⟩

theorem ascii_urlSafe : urlSafe.Ascii := ⟨by decide, by decide⟩

variable {a : Alphabet}

theorem Alphabet.Ascii.digit_lt (ha : a.Ascii) (n : UInt8) : a.digit n < 0x80 := by
  obtain ⟨h62, h63⟩ := ha
  grind [Alphabet.digit]

/-- Base 64 is in ASCII. -/
theorem lt_of_mem_encode (ha : a.Ascii) {x : UInt8} : ∀ {v : Bytes}, x ∈ encode a v → x < 0x80
  | [], h => nomatch h
  | [_], h => by
    simp only [encode, List.mem_cons, List.not_mem_nil, or_false] at h
    rcases h with rfl | rfl | rfl | rfl
    · exact ha.digit_lt _
    · exact ha.digit_lt _
    · decide
    · decide
  | [_, _], h => by
    simp only [encode, List.mem_cons, List.not_mem_nil, or_false] at h
    rcases h with rfl | rfl | rfl | rfl
    · exact ha.digit_lt _
    · exact ha.digit_lt _
    · exact ha.digit_lt _
    · decide
  | _ :: _ :: _ :: rest, h => by
    rw [encode] at h
    rcases List.mem_append.mp h with h | h
    · simp only [List.mem_cons, List.not_mem_nil, or_false] at h
      rcases h with rfl | rfl | rfl | rfl
      all_goals exact ha.digit_lt _
    · exact lt_of_mem_encode ha h

end Base64

/-! ## 3. Form encoding -/

namespace Form

/-- A byte that form encoding writes. -/
def Written (x : UInt8) : Prop := isPlain x = true ∨ x = 43 ∨ x = 37

theorem Written.lt {x : UInt8} (h : Written x) : x < 0x80 := by
  rcases h with h | rfl | rfl
  · grind [isPlain]
  · decide
  · decide

/-- What holds of each character in ASCII that may be written holds of what is written. -/
theorem Written.char {p : Char → Bool} (hp : ∀ n < 128,
    isPlain (UInt8.ofNat n) = true ∨ n = 43 ∨ n = 37 → p (Char.ofNat n)) {x : UInt8} (h : Written x) :
    p (Char.ofNat x.toNat) := by
  refine hp x.toNat (UInt8.lt_iff_toNat_lt.mp h.lt) ?_
  rcases h with h | rfl | rfl
  · exact .inl (by rwa [UInt8.ofNat_toNat])
  · exact .inr (.inl rfl)
  · exact .inr (.inr rfl)

/-- The digits of a percent escape are plain. -/
theorem isPlain_upperDigit {n : UInt8} (h : n < 16) : isPlain (Hex.upperDigit n) = true := by
  grind [Hex.upperDigit, isPlain]

theorem written_of_mem_escape {b x : UInt8} (h : x ∈ Percent.escape b) : Written x := by
  simp only [Percent.escape, List.mem_cons, List.not_mem_nil, or_false] at h
  rcases h with rfl | rfl | rfl
  · exact .inr (.inr rfl)
  · exact .inl (isPlain_upperDigit (Hex.highHalf_lt b))
  · exact .inl (isPlain_upperDigit (Hex.lowHalf_lt b))

theorem written_of_mem_encodeByte {b x : UInt8} (h : x ∈ encodeByte b) : Written x := by
  rw [encodeByte] at h
  split at h
  · next hb =>
    obtain rfl := List.mem_singleton.mp h
    exact .inl hb
  · split at h
    · exact .inr (.inl (List.mem_singleton.mp h))
    · exact written_of_mem_escape h

/-- **Form encoding writes plain bytes, `+` and percent signs.** -/
theorem written_of_mem_encode {v : Bytes} {x : UInt8} (h : x ∈ encode v) : Written x := by
  obtain ⟨b, -, hx⟩ := List.mem_flatMap.mp h
  exact written_of_mem_encodeByte hx

end Form

/-! ## 4. Escaped texts -/

/-- **What escaping leaves**: characters of the text that need no escape, and what is written. -/
theorem Percent.mem_encodeText {mustEscape : Char → Bool} {s : Text} {c : Char}
    (h : c ∈ encodeText mustEscape s) :
    (c ∈ s ∧ c.toNat < 0x80 ∧ mustEscape c = false) ∨
      ∃ x, Form.Written x ∧ c = Char.ofNat x.toNat := by
  obtain ⟨d, hd, hc⟩ := List.mem_flatMap.mp h
  rw [encodeChar] at hc
  split at hc
  · next hkept =>
    obtain rfl := List.mem_singleton.mp hc
    simp only [Bool.and_eq_true, decide_eq_true_eq, Bool.not_eq_true'] at hkept
    exact .inl ⟨hd, hkept⟩
  · obtain ⟨x, hx, rfl⟩ := List.mem_map.mp hc
    obtain ⟨b, -, hx⟩ := List.mem_flatMap.mp hx
    exact .inr ⟨x, Form.written_of_mem_escape hx, rfl⟩

end Stencil
