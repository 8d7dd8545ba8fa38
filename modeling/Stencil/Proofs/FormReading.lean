/-
# Reading forms undoes writing them

A query is a list of names and values, each pair with `=` between them, and with `&` between pairs.
Reading cuts it at these signs and decodes the parts.  This file shows that nothing is cut or decoded
that was not joined or encoded.

* `Percent.unescape_escape`, `Form.decode_encode`: decoding undoes encoding, byte by byte.
* `Form.decodeText_encodeText`: the same for a text.  `Form.decodeText_of_literal`: a text without
  escapes and `+` is read as it is.
* `Form.pairs_join`: the pairs that are read from a query are those that it was joined from.
-/
import Stencil.Proofs.Decoding
import Stencil.Proofs.DigitReading

namespace Stencil

/-! ## 1. Texts in ASCII -/

namespace Text

variable {s : Text} {c : Char} {parts : List Text}

/-- A character of ASCII is its byte. -/
theorem utf8EncodeChar_of_ascii (h : c.toNat < 0x80) :
    String.utf8EncodeChar c = [UInt8.ofNat c.toNat] := by
  have hle : c.val.toNat ≤ 0x7f := Nat.le_of_lt_succ h
  simp only [String.utf8EncodeChar, if_pos hle]
  rfl

/-- The bytes of a text in ASCII are its characters. -/
theorem utf8_of_ascii (h : ∀ c ∈ s, c.toNat < 0x80) : s.utf8 = s.map fun c => UInt8.ofNat c.toNat := by
  induction s with
  | nil => rfl
  | cons c s ih =>
    obtain ⟨hc, hs⟩ := List.forall_mem_cons.mp h
    rw [utf8, List.flatMap_cons, utf8EncodeChar_of_ascii hc, List.map_cons]
    exact congrArg _ (ih hs)

/-- A byte of a text in ASCII is one of its characters. -/
theorem mem_of_mem_utf8 (h : ∀ c ∈ s, c.toNat < 0x80) (hascii : c.toNat < 0x80)
    (hc : UInt8.ofNat c.toNat ∈ s.utf8) : c ∈ s := by
  rw [utf8_of_ascii h] at hc
  obtain ⟨d, hd, heq⟩ := List.mem_map.mp hc
  have hlt := h d hd
  have hnat : d.toNat = c.toNat := by
    have := congrArg UInt8.toNat heq
    rwa [UInt8.toNat_ofNat_of_lt' (Nat.lt_trans hlt (by decide)),
      UInt8.toNat_ofNat_of_lt' (Nat.lt_trans hascii (by decide))] at this
  have hdc : d = c := by rw [← Char.ofNat_toNat d, hnat, Char.ofNat_toNat]
  exact hdc ▸ hd

/-- **Joined texts are cut apart again** at a sign that none of them holds. -/
theorem splitOn_utf8_join {s : Text} (h : ∀ p ∈ s :: parts, 38 ∉ p.utf8) :
    (join ['&'] (s :: parts)).utf8.splitOn 38 = (s :: parts).map utf8 := by
  induction parts generalizing s with
  | nil =>
    rw [join, List.splitOn_eq_singleton (h s List.mem_cons_self)]
    rfl
  | cons t parts ih =>
    obtain ⟨hs, hparts⟩ := List.forall_mem_cons.mp h
    have hbytes : (join ['&'] (s :: t :: parts)).utf8 =
        s.utf8 ++ 38 :: (join ['&'] (t :: parts)).utf8 := by
      rw [join, utf8_append, utf8_append, List.append_assoc]
      rfl
    rw [hbytes, List.splitOn_append_cons_self_of_not_mem hs, ih hparts]
    rfl

end Text

/-! ## 2. Escapes -/

namespace Percent

theorem value?_upperDigit {n : UInt8} (h : n < 16) : Hex.value? (Hex.upperDigit n) = some n := by
  grind [Hex.value?, Hex.upperDigit]

/-- The halves of a byte make it up. -/
theorem halves (b : UInt8) : b >>> 4 <<< 4 ||| b &&& 15 = b :=
  ((Octet.halves_iff (Hex.highHalf_lt b) (Hex.lowHalf_lt b)).mpr ⟨rfl, rfl⟩).symm

/-- An escape is read as its byte. -/
theorem unescape_escape (b : UInt8) (rest : Bytes) :
    unescape (escape b ++ rest) = b :: unescape rest := by
  simp only [escape, List.cons_append, List.nil_append, unescape,
    value?_upperDigit (Hex.highHalf_lt b), value?_upperDigit (Hex.lowHalf_lt b), halves]
  rfl

/-- A byte that starts no escape is read as it is. -/
theorem unescape_cons {b : UInt8} (h : b ≠ 37) (rest : Bytes) :
    unescape (b :: rest) = b :: unescape rest := by
  match rest with
  | [] => rfl
  | [_] => rfl
  | _ :: _ :: _ => rw [unescape, if_neg h]

/-- Without percent signs there is nothing to read. -/
theorem unescape_of_not_mem : ∀ {v : Bytes}, 37 ∉ v → unescape v = v
  | [], _ => rfl
  | b :: v, h => by
    obtain ⟨hb, hv⟩ := not_or.mp (mt List.mem_cons.mpr h)
    rw [unescape_cons (Ne.symm hb), unescape_of_not_mem hv]

/-- Bytes of ASCII are the form of their text. -/
theorem utf8_ofAscii : ∀ {b : Bytes}, (∀ x ∈ b, x < 0x80) → (ofAscii b).utf8 = b
  | [], _ => rfl
  | x :: b, h => by
    obtain ⟨hx, hb⟩ := List.forall_mem_cons.mp h
    obtain ⟨c, hc, hform⟩ := Utf8.exists_char_of_spells (.whole (UInt8.lt_iff_toNat_lt.mp hx))
    rw [ofAscii, List.map_cons, Text.utf8, List.flatMap_cons, ← hc, Char.ofNat_toNat, hform]
    exact congrArg _ (utf8_ofAscii hb)

end Percent

/-! ## 3. Names and values -/

namespace Form

variable {v w : Bytes} {x : UInt8} {s : Text}

/-- Form encoding writes neither `&` nor `=`. -/
theorem Written.ne_separator (h : Written x) : x ≠ 38 ∧ x ≠ 61 := by
  rcases h with h | rfl | rfl
  · grind [isPlain]
  · decide
  · decide

/-- The digits of an escape are no `+`. -/
theorem map_escape (b : UInt8) :
    (Percent.escape b).map (fun b => if b = 43 then 32 else b) = Percent.escape b := by
  have hplain {n : UInt8} (hn : n < 16) : Hex.upperDigit n ≠ 43 := by
    grind [Hex.upperDigit]
  simp [Percent.escape, hplain (Hex.highHalf_lt b), hplain (Hex.lowHalf_lt b)]

/-- The form of a byte is read as the byte. -/
theorem decode_encodeByte (b : UInt8) (rest : Bytes) :
    decode (encodeByte b ++ rest) = b :: decode rest := by
  rw [decode, List.map_append, encodeByte]
  split
  · next hplain =>
    have hne : b ≠ 43 ∧ b ≠ 37 := by grind [isPlain]
    rw [List.map_singleton, if_neg hne.1]
    exact Percent.unescape_cons hne.2 _
  · split
    · next hspace =>
      obtain rfl := hspace
      exact Percent.unescape_cons (by decide) _
    · rw [map_escape]
      exact Percent.unescape_escape b _

/-- **Decoding undoes encoding.** -/
theorem decode_encode : ∀ v : Bytes, decode (encode v) = v
  | [] => rfl
  | b :: v => by
    rw [encode, List.flatMap_cons, decode_encodeByte]
    exact congrArg _ (decode_encode v)

/-- Bytes without escapes and `+` are read as they are. -/
theorem decode_of_not_mem (hpercent : 37 ∉ v) (hplus : 43 ∉ v) : decode v = v := by
  have hmap : v.map (fun b => if b = 43 then 32 else b) = v := by
    rw [List.map_congr_left (g := id), List.map_id]
    intro b hb
    have hne : b ≠ 43 := fun heq => hplus (heq ▸ hb)
    exact if_neg hne
  rw [decode, hmap, Percent.unescape_of_not_mem hpercent]

theorem utf8_encodeText (s : Text) : (encodeText s).utf8 = encode s.utf8 :=
  Percent.utf8_ofAscii fun _ hx => (written_of_mem_encode hx).lt

/-- Text is read from its form without a fault. -/
theorem lossy_utf8 (s : Text) : Utf8.lossy s.utf8 = s := by
  rw [Utf8.lossy, Utf8.read_utf8, List.map_map]
  exact List.map_id s

/-- **A text is read from its encoded form.** -/
theorem decodeText_encodeText (s : Text) : decodeText (encodeText s).utf8 = s := by
  rw [utf8_encodeText, decodeText, decode_encode, lossy_utf8]

/-- **A text in ASCII without escapes and `+` is read as it is.** -/
theorem decodeText_of_literal (hascii : ∀ c ∈ s, c.toNat < 0x80) (hpercent : '%' ∉ s)
    (hplus : '+' ∉ s) : decodeText s.utf8 = s := by
  rw [decodeText, decode_of_not_mem, lossy_utf8]
  · exact fun hx => hpercent (Text.mem_of_mem_utf8 (c := '%') hascii (by decide) hx)
  · exact fun hx => hplus (Text.mem_of_mem_utf8 (c := '+') hascii (by decide) hx)

/-! ## 4. Queries -/

/-- A name and a value, where only the name is still to be encoded. -/
def writePair (p : Text × Text) : Text := encodeText p.1 ++ '=' :: p.2

/-- A pair is cut at the sign that it was joined with, as its name holds none. -/
theorem splitPair_append {name value : Bytes} (h : 61 ∉ name) :
    splitPair (name ++ 61 :: value) = (name, value) := by
  have hname : ∀ b ∈ name, (b != 61) = true := fun b hb => bne_iff_ne.mpr fun he => h (he ▸ hb)
  rw [splitPair, List.takeWhile_append_of_pos hname, List.dropWhile_append_of_pos hname]
  simp

theorem utf8_writePair (p : Text × Text) :
    (writePair p).utf8 = encode p.1.utf8 ++ 61 :: p.2.utf8 := by
  rw [writePair, Text.utf8_append, utf8_encodeText]
  rfl

/-- **The pairs of a query are those that it was joined from**, with their values decoded, as long
as no value holds the sign between pairs. -/
theorem pairs_join {ps : List (Text × Text)} (h : ∀ p ∈ ps, 38 ∉ p.2.utf8) :
    pairs (Text.join ['&'] (ps.map writePair)).utf8 =
      ps.map fun p => (p.1, decodeText p.2.utf8) := by
  have hparts : ∀ q ∈ ps.map writePair, 38 ∉ q.utf8 := by
    intro q hq
    obtain ⟨p, hp, rfl⟩ := List.mem_map.mp hq
    rw [utf8_writePair]
    simp only [List.mem_append, List.mem_cons, not_or]
    exact ⟨fun hx => (written_of_mem_encode hx).ne_separator.1 rfl, by decide, h p hp⟩
  have hread (p : Text × Text) : splitPair (writePair p).utf8 = (encode p.1.utf8, p.2.utf8) := by
    rw [utf8_writePair]
    exact splitPair_append fun hx => (written_of_mem_encode hx).ne_separator.2 rfl
  cases ps with
  | nil => rfl
  | cons p ps =>
    rw [pairs, List.map_cons, Text.splitOn_utf8_join hparts, ← List.map_cons, List.map_map,
      List.filter_eq_self.mpr, List.map_map]
    · refine List.map_congr_left fun q _ => ?_
      simp only [Function.comp_apply, hread]
      rw [← utf8_encodeText, decodeText_encodeText]
    · intro q hq
      obtain ⟨p, -, rfl⟩ := List.mem_map.mp hq
      rw [Function.comp_apply, utf8_writePair]
      simp

end Form
end Stencil
