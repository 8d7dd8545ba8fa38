/-
# Reading digits undoes writing them

The hex form and base 64 write the bits of a byte string in groups: four bits make a digit of the
hex form, six bits a digit of base 64.  This file gives strict decoders for both.  They take nothing
but what the encoders write, so that every byte string has one form, and every form one byte string.

* `Octet.halves_iff`, `Octet.sextets_iff`: the bytes of a group fix its digits, and the digits the
  bytes.
* `Hex.decode?_eq_some_iff`: pairs of lower-case digits, and nothing else, are read as bytes.
* `Base64.decode?_eq_some_iff`: the same for padded base 64 in a proper alphabet.  Padding stands in
  the last group only, and the bits that it cuts off are zero.
* `Hex.length_encode`, `Base64.length_encode`: how long the forms are.
-/
import Mathlib.Algebra.Group.Nat.Defs
import Stencil.Proofs.Encodings

namespace Stencil

/-! ## 1. The bits of bytes -/

namespace Octet

variable {h l p q r s t m x y z : UInt8} {k : Nat}

/-- The bits from `k` on. -/
theorem toNat_high (ht : t.toNat = k) (hk : k < 8) (x : UInt8) :
    (x >>> t).toNat = x.toNat / 2 ^ k := by
  rw [UInt8.toNat_shiftRight, ht, Nat.mod_eq_of_lt hk, Nat.shiftRight_eq_div_pow]

theorem toNat_high_lt (ht : t.toNat = k) (hk : k < 8) (x : UInt8) :
    (x >>> t).toNat < 2 ^ (8 - k) := by
  rw [toNat_high ht hk, Nat.div_lt_iff_lt_mul (Nat.two_pow_pos k), ← Nat.pow_add,
    Nat.sub_add_cancel (Nat.le_of_lt hk)]
  exact x.toNat_lt

/-- The bits below `k`. -/
theorem toNat_low (hm : m.toNat = 2 ^ k - 1) (x : UInt8) : (x &&& m).toNat = x.toNat % 2 ^ k := by
  rw [UInt8.toNat_and, hm, Nat.and_two_pow_sub_one_eq_mod]

theorem toNat_shifted (ht : t.toNat = k) (hk : k < 8) (x : UInt8) :
    (x <<< t).toNat = 2 ^ k * (x.toNat % 2 ^ (8 - k)) := by
  rw [UInt8.toNat_shiftLeft, ht, Nat.mod_eq_of_lt hk, Nat.shiftLeft_eq, Nat.mul_comm,
    ← Nat.mul_mod_mul_left, ← Nat.pow_add, Nat.add_sub_of_le (Nat.le_of_lt hk)]

/-- Bits that are put below others add up with them. -/
theorem toNat_join (ht : t.toNat = k) (hk : k < 8) (hl : l.toNat < 2 ^ k) (x : UInt8) :
    (x <<< t ||| l).toNat = 2 ^ k * (x.toNat % 2 ^ (8 - k)) + l.toNat := by
  rw [UInt8.toNat_or, toNat_shifted ht hk, Nat.two_pow_add_eq_or_of_lt hl]

/-- **A byte fixes its halves, and they the byte.** -/
theorem halves_iff (hh : h < 16) (hl : l < 16) :
    x = h <<< 4 ||| l ↔ h = x >>> 4 ∧ l = x &&& 15 := by
  have hh : h.toNat < 16 := UInt8.lt_iff_toNat_lt.mp hh
  have hl : l.toNat < 2 ^ 4 := UInt8.lt_iff_toNat_lt.mp hl
  have hx := x.toNat_lt
  simp only [← UInt8.toNat_inj, toNat_join (t := 4) (k := 4) rfl (by decide) hl,
    toNat_high (t := 4) (k := 4) rfl (by decide), toNat_low (m := 15) (k := 4) rfl]
  omega

/-- Groups of six bits are below 64. -/
theorem sextets_lt (x y z : UInt8) :
    x >>> 2 < 64 ∧ (x &&& 3) <<< 4 ||| y >>> 4 < 64 ∧ (y &&& 15) <<< 2 ||| z >>> 6 < 64 ∧
      z &&& 63 < 64 := by
  have hx := x.toNat_lt
  have hy4 := toNat_high_lt (t := 4) (k := 4) rfl (by decide) y
  have hz6 := toNat_high_lt (t := 6) (k := 6) rfl (by decide) z
  simp only [UInt8.lt_iff_toNat_lt, toNat_join (t := 4) (k := 4) rfl (by decide) hy4,
    toNat_join (t := 2) (k := 2) rfl (by decide) hz6, toNat_high (t := 2) (k := 2) rfl (by decide),
    toNat_low (m := 3) (k := 2) rfl, toNat_low (m := 15) (k := 4) rfl,
    toNat_low (m := 63) (k := 6) rfl]
  change _ < 64 ∧ _ < 64 ∧ _ < 64 ∧ _ < 64
  omega

/-- **Three bytes fix four groups of six bits, and they the bytes.** -/
theorem sextets_iff (hp : p < 64) (hq : q < 64) (hr : r < 64) (hs : s < 64) :
    x = p <<< 2 ||| q >>> 4 ∧ y = q <<< 4 ||| r >>> 2 ∧ z = r <<< 6 ||| s ↔
      p = x >>> 2 ∧ q = (x &&& 3) <<< 4 ||| y >>> 4 ∧ r = (y &&& 15) <<< 2 ||| z >>> 6 ∧
        s = z &&& 63 := by
  have hp : p.toNat < 64 := UInt8.lt_iff_toNat_lt.mp hp
  have hq : q.toNat < 64 := UInt8.lt_iff_toNat_lt.mp hq
  have hr : r.toNat < 64 := UInt8.lt_iff_toNat_lt.mp hr
  have hs : s.toNat < 2 ^ 6 := UInt8.lt_iff_toNat_lt.mp hs
  have hx := x.toNat_lt
  have hy := y.toNat_lt
  have hz := z.toNat_lt
  have high2 := toNat_high (t := 2) (k := 2) rfl (by decide)
  have high4 := toNat_high (t := 4) (k := 4) rfl (by decide)
  have high6 := toNat_high (t := 6) (k := 6) rfl (by decide)
  have hq4 : (q >>> 4).toNat < 2 ^ 2 := by rw [high4]; omega
  have hr2 : (r >>> 2).toNat < 2 ^ 4 := by rw [high2]; omega
  have hy4 := toNat_high_lt (t := 4) (k := 4) rfl (by decide) y
  have hz6 := toNat_high_lt (t := 6) (k := 6) rfl (by decide) z
  simp only [← UInt8.toNat_inj, toNat_join (t := 2) (k := 2) rfl (by decide) hq4,
    toNat_join (t := 4) (k := 4) rfl (by decide) hr2,
    toNat_join (t := 6) (k := 6) rfl (by decide) hs,
    toNat_join (t := 4) (k := 4) rfl (by decide) hy4,
    toNat_join (t := 2) (k := 2) rfl (by decide) hz6, high2, high4, high6,
    toNat_low (m := 3) (k := 2) rfl, toNat_low (m := 15) (k := 4) rfl,
    toNat_low (m := 63) (k := 6) rfl]
  omega

end Octet

/-! ## 2. Hexadecimal digits -/

namespace Hex

variable {v w : Bytes} {b n : UInt8}

/-- The value of a lower-case digit. -/
def lowerValue? (b : UInt8) : Option UInt8 :=
  if 48 ≤ b ∧ b ≤ 57 then some (b - 48) else if 97 ≤ b ∧ b ≤ 102 then some (b - 87) else none

/-- Reads pairs of lower-case digits. -/
def decode? : Bytes → Option Bytes
  | [] => some []
  | [_] => none
  | h :: l :: rest => do
    let high ← lowerValue? h
    let low ← lowerValue? l
    let v ← decode? rest
    return (high <<< 4 ||| low) :: v

theorem lowerValue?_eq_some_iff : lowerValue? b = some n ↔ n < 16 ∧ b = digit n := by
  constructor
  · grind [lowerValue?, digit]
  · grind [lowerValue?, digit]

theorem encode_cons (x : UInt8) (v : Bytes) :
    encode (x :: v) = digit (x >>> 4) :: digit (x &&& 15) :: encode v := rfl

theorem decode?_encode : ∀ v : Bytes, decode? (encode v) = some v
  | [] => rfl
  | x :: v => by
    have hhigh := lowerValue?_eq_some_iff.mpr ⟨highHalf_lt x, rfl⟩
    have hlow := lowerValue?_eq_some_iff.mpr ⟨lowHalf_lt x, rfl⟩
    have hx := (Octet.halves_iff (x := x) (highHalf_lt x) (lowHalf_lt x)).mpr ⟨rfl, rfl⟩
    simp [encode_cons, decode?, hhigh, hlow, decode?_encode v, ← hx]

theorem eq_encode_of_decode? : ∀ {w v : Bytes}, decode? w = some v → w = encode v
  | [], _, h => by
    obtain rfl := Option.some.inj h
    rfl
  | [_], _, h => by contradiction
  | c :: d :: rest, v, h => by
    obtain ⟨high, hc, h⟩ := Option.bind_eq_some_iff.mp h
    obtain ⟨low, hd, h⟩ := Option.bind_eq_some_iff.mp h
    obtain ⟨v, hrest, h⟩ := Option.bind_eq_some_iff.mp h
    obtain rfl := Option.some.inj h
    obtain ⟨hhigh, rfl⟩ := lowerValue?_eq_some_iff.mp hc
    obtain ⟨hlow, rfl⟩ := lowerValue?_eq_some_iff.mp hd
    obtain ⟨hc, hd⟩ := (Octet.halves_iff hhigh hlow).mp rfl
    rw [encode_cons, ← hc, ← hd, eq_encode_of_decode? hrest]

/-- **A hex form is read as the byte string that it was written for, and nothing else is read.** -/
theorem decode?_eq_some_iff : decode? w = some v ↔ w = encode v := by
  constructor
  · exact eq_encode_of_decode?
  · rintro rfl
    exact decode?_encode v

theorem length_encode : ∀ v : Bytes, (encode v).length = 2 * v.length
  | [] => rfl
  | x :: v => by
    rw [encode_cons, List.length_cons, List.length_cons, length_encode v, List.length_cons]
    omega

end Hex

/-! ## 3. Base 64 -/

namespace Base64

variable {a : Alphabet} {b n p q r s x y z : UInt8} {v w : Bytes}

/-- A sign is no letter and no digit, and not the padding sign. -/
def IsSign (b : UInt8) : Prop :=
  ¬(65 ≤ b ∧ b ≤ 90) ∧ ¬(97 ≤ b ∧ b ≤ 122) ∧ ¬(48 ≤ b ∧ b ≤ 57) ∧ b ≠ padding

instance (b : UInt8) : Decidable (IsSign b) :=
  inferInstanceAs (Decidable (_ ∧ _))

/-- The digits of 62 and 63 are two signs. -/
structure Alphabet.Proper (a : Alphabet) : Prop where
  sixtyTwo : IsSign a.sixtyTwo
  sixtyThree : IsSign a.sixtyThree
  distinct : a.sixtyTwo ≠ a.sixtyThree

theorem proper_standard : standard.Proper := ⟨by decide, by decide, by decide⟩

theorem proper_urlSafe : urlSafe.Proper := ⟨by decide, by decide, by decide⟩

/-- The value of a digit. -/
def Alphabet.value? (a : Alphabet) (b : UInt8) : Option UInt8 :=
  if 65 ≤ b ∧ b ≤ 90 then some (b - 65)
  else if 97 ≤ b ∧ b ≤ 122 then some (b - 71)
  else if 48 ≤ b ∧ b ≤ 57 then some (b + 4)
  else if b = a.sixtyTwo then some 62
  else if b = a.sixtyThree then some 63
  else none

/-- The three bytes of four digits. -/
def Alphabet.group? (a : Alphabet) (p q r s : UInt8) : Option (UInt8 × UInt8 × UInt8) := do
  let p ← a.value? p
  let q ← a.value? q
  let r ← a.value? r
  let s ← a.value? s
  return (p <<< 2 ||| q >>> 4, q <<< 4 ||| r >>> 2, r <<< 6 ||| s)

/-- Reads padded base 64.  In the last group padding counts as the digit of zero, and the bytes that
it stands for must be zero; they are dropped. -/
def decode? (a : Alphabet) : Bytes → Option Bytes
  | [] => some []
  | p :: q :: r :: s :: rest =>
    if s = padding ∧ rest = [] then
      if r = padding then do
        let (x, y, z) ← a.group? p q (a.digit 0) (a.digit 0)
        if y = 0 ∧ z = 0 then some [x] else none
      else do
        let (x, y, z) ← a.group? p q r (a.digit 0)
        if z = 0 then some [x, y] else none
    else do
      let (x, y, z) ← a.group? p q r s
      let v ← decode? a rest
      return x :: y :: z :: v
  | _ => none

namespace Alphabet.Proper

theorem value?_eq_some_iff (ha : a.Proper) : a.value? b = some n ↔ n < 64 ∧ b = a.digit n := by
  obtain ⟨h62, h63, hne⟩ := ha
  constructor
  · grind [Alphabet.value?, Alphabet.digit]
  · rintro ⟨hn, rfl⟩
    -- capital letters, small letters, digits, and then the two signs
    rw [Alphabet.digit]
    split
    · rw [Alphabet.value?, if_pos (by grind)]
      exact congrArg some (by grind)
    · split
      · rw [Alphabet.value?, if_neg (by grind), if_pos (by grind)]
        exact congrArg some (by grind)
      · split
        · rw [Alphabet.value?, if_neg (by grind), if_neg (by grind), if_pos (by grind)]
          exact congrArg some (by grind)
        · split
          · grind [IsSign, Alphabet.value?]
          · grind [IsSign, Alphabet.value?]

theorem digit_ne_padding (ha : a.Proper) (n : UInt8) : a.digit n ≠ padding := by
  obtain ⟨h62, h63, -⟩ := ha
  grind [IsSign, padding, Alphabet.digit]

/-- **Digits are read as the group that they are written for.** -/
theorem group?_eq_some_iff (ha : a.Proper) :
    a.group? p q r s = some (x, y, z) ↔ encode a [x, y, z] = [p, q, r, s] := by
  obtain ⟨hp, hq, hr, hs⟩ := Octet.sextets_lt x y z
  constructor
  · intro h
    obtain ⟨i, hi, h⟩ := Option.bind_eq_some_iff.mp h
    obtain ⟨j, hj, h⟩ := Option.bind_eq_some_iff.mp h
    obtain ⟨k, hk, h⟩ := Option.bind_eq_some_iff.mp h
    obtain ⟨l, hl, h⟩ := Option.bind_eq_some_iff.mp h
    simp only [ha.value?_eq_some_iff] at hi hj hk hl
    obtain ⟨rfl, rfl, rfl⟩ : _ = x ∧ _ = y ∧ _ = z := by simpa using h
    obtain ⟨h1, h2, h3, h4⟩ := (Octet.sextets_iff hi.1 hj.1 hk.1 hl.1).mp ⟨rfl, rfl, rfl⟩
    rw [encode, ← h1, ← h2, ← h3, ← h4, hi.2, hj.2, hk.2, hl.2]
    rfl
  · intro h
    simp only [encode, List.cons_append, List.nil_append, List.cons.injEq, and_true] at h
    obtain ⟨rfl, rfl, rfl, rfl⟩ := h
    obtain ⟨hx, hy, hz⟩ := (Octet.sextets_iff hp hq hr hs).mpr ⟨rfl, rfl, rfl, rfl⟩
    simp [group?, ha.value?_eq_some_iff.mpr ⟨hp, rfl⟩, ha.value?_eq_some_iff.mpr ⟨hq, rfl⟩,
      ha.value?_eq_some_iff.mpr ⟨hr, rfl⟩, ha.value?_eq_some_iff.mpr ⟨hs, rfl⟩, ← hx, ← hy, ← hz]

end Alphabet.Proper

/-- A full group is written by itself. -/
theorem encode_group (x y z : UInt8) (v : Bytes) :
    encode a (x :: y :: z :: v) = encode a [x, y, z] ++ encode a v := by
  simp [encode]

/-- A last group of one byte is written like one that zeros fill up, but for the padding. -/
theorem encode_one_iff {x : UInt8} : encode a [x] = [p, q, padding, padding] ↔
    encode a [x, 0, 0] = [p, q, a.digit 0, a.digit 0] := by
  simp [encode]

/-- A last group of two bytes is written like one that a zero fills up, but for the padding. -/
theorem encode_two_iff {x y : UInt8} : encode a [x, y] = [p, q, r, padding] ↔
    encode a [x, y, 0] = [p, q, r, a.digit 0] := by
  simp [encode]

theorem Alphabet.Proper.decode?_encode (ha : a.Proper) :
    ∀ v : Bytes, decode? a (encode a v) = some v
  | [] => rfl
  | [x] => by
    have hgroup := ha.group?_eq_some_iff.mpr ((encode_one_iff (x := x)).mp rfl)
    rw [encode, decode?, if_pos ⟨rfl, rfl⟩, if_pos rfl, hgroup]
    rfl
  | [x, y] => by
    have hgroup := ha.group?_eq_some_iff.mpr ((encode_two_iff (x := x) (y := y)).mp rfl)
    rw [encode, decode?, if_pos ⟨rfl, rfl⟩, if_neg (ha.digit_ne_padding _), hgroup]
    rfl
  | x :: y :: z :: rest => by
    have hgroup := (ha.group?_eq_some_iff (x := x) (y := y) (z := z)).mpr rfl
    simp only [encode, List.cons_append, List.nil_append]
    rw [decode?, if_neg fun hlast => ha.digit_ne_padding _ hlast.1, hgroup, ha.decode?_encode rest]
    rfl

theorem Alphabet.Proper.eq_encode_of_decode? (ha : a.Proper) :
    ∀ {w v : Bytes}, decode? a w = some v → w = encode a v
  | [], _, h => by
    obtain rfl := Option.some.inj h
    rfl
  | [_], _, h => by contradiction
  | [_, _], _, h => by contradiction
  | [_, _, _], _, h => by contradiction
  | p :: q :: r :: s :: rest, v, h => by
    rw [decode?] at h
    split at h
    · next hlast =>
      -- a last group with two padding signs or one: what it holds is a group that zeros fill up
      obtain ⟨rfl, rfl⟩ := hlast
      split at h
      · next hr =>
        subst hr
        obtain ⟨⟨x, y, z⟩, hgroup, h⟩ := Option.bind_eq_some_iff.mp h
        obtain ⟨⟨rfl, rfl⟩, rfl⟩ : (y = 0 ∧ z = 0) ∧ [x] = v := by simpa using h
        exact (encode_one_iff.mpr (ha.group?_eq_some_iff.mp hgroup)).symm
      · obtain ⟨⟨x, y, z⟩, hgroup, h⟩ := Option.bind_eq_some_iff.mp h
        obtain ⟨rfl, rfl⟩ : z = 0 ∧ [x, y] = v := by simpa using h
        exact (encode_two_iff.mpr (ha.group?_eq_some_iff.mp hgroup)).symm
    · obtain ⟨⟨x, y, z⟩, hgroup, h⟩ := Option.bind_eq_some_iff.mp h
      obtain ⟨v, hrest, h⟩ := Option.bind_eq_some_iff.mp h
      obtain rfl := Option.some.inj h
      rw [encode_group, ha.group?_eq_some_iff.mp hgroup, ← ha.eq_encode_of_decode? hrest]
      rfl

/-- **Base 64 is read as the byte string that it was written for, and nothing else is read.** -/
theorem Alphabet.Proper.decode?_eq_some_iff (ha : a.Proper) :
    decode? a w = some v ↔ w = encode a v := by
  constructor
  · exact ha.eq_encode_of_decode?
  · rintro rfl
    exact ha.decode?_encode v

theorem length_encode (a : Alphabet) : ∀ v : Bytes, (encode a v).length = 4 * ((v.length + 2) / 3)
  | [] => rfl
  | [_] => by simp [encode]
  | [_, _] => by simp [encode]
  | _ :: _ :: _ :: rest => by
    rw [encode, List.length_append, length_encode a rest]
    simp only [List.length_cons, List.length_nil]
    omega

end Base64

end Stencil
