/-
# Reading UTF-8 undoes writing it

`Utf8.decode?` reads bytes with a machine that is between characters or inside one.  This file shows
that it finds a text exactly when the bytes are the form of that text (`Utf8.decode?_eq_some_iff`).

* `Utf8.Completes`: bytes that end a character whose first bytes have been read, and the code point
  they end it with.  `Utf8.Spells`: all bytes of a character.
* `Utf8.spells_utf8EncodeChar`, `Utf8.exists_char_of_spells`: these are the forms of the characters.
  All arithmetic is here: a narrower range for the second byte keeps out what would be overlong, a
  surrogate or too large.
* `Utf8.read_of_spells`, `Utf8.exists_spells_of_read`: the machine reads what is spelled, and
  where it finds no fault something is spelled.
-/
import Mathlib.Tactic.SplitIfs
import Stencil.Text.Utf8

namespace Stencil
namespace Utf8

variable {a b : UInt8} {p : Unfinished} {t bs rest : Bytes} {n : Nat} {c : Char} {s : Text}

/-! ## 1. How characters are spelled -/

/-- Bytes that end a character of which `p` is known, and its code point. -/
inductive Completes : Unfinished → Bytes → Nat → Prop
  | last {bits low high : Nat} {b : UInt8} (hlow : low ≤ b.toNat) (hhigh : b.toNat ≤ high) :
      Completes ⟨bits, 0, low, high⟩ [b] (bits * 64 + b.toNat % 64)
  | more {bits more low high : Nat} {b : UInt8} {t : Bytes} {n : Nat} (hlow : low ≤ b.toNat)
      (hhigh : b.toNat ≤ high)
      (ht : Completes ⟨bits * 64 + b.toNat % 64, more, 0x80, 0xbf⟩ t n) :
      Completes ⟨bits, more + 1, low, high⟩ (b :: t) n

/-- The bytes of a character, and its code point. -/
inductive Spells : Bytes → Nat → Prop
  | whole {a : UInt8} (ha : a.toNat < 0x80) : Spells [a] a.toNat
  | opened {a : UInt8} {p : Unfinished} {t : Bytes} {n : Nat} (ha : lead a = .opens p)
      (ht : Completes p t n) : Spells (a :: t) n

/-- The last byte of a character. -/
theorem Completes.exists_last {bits low high : Nat} (h : Completes ⟨bits, 0, low, high⟩ t n) :
    ∃ b : UInt8, t = [b] ∧ (low ≤ b.toNat ∧ b.toNat ≤ high) ∧ n = bits * 64 + b.toNat % 64 := by
  cases h with
  | last hlow hhigh => exact ⟨_, rfl, ⟨hlow, hhigh⟩, rfl⟩

/-- A byte of a character that is not the last. -/
theorem Completes.exists_more {bits more low high : Nat}
    (h : Completes ⟨bits, more + 1, low, high⟩ t n) :
    ∃ (b : UInt8) (t' : Bytes), t = b :: t' ∧ (low ≤ b.toNat ∧ b.toNat ≤ high) ∧
      Completes ⟨bits * 64 + b.toNat % 64, more, 0x80, 0xbf⟩ t' n := by
  cases h with
  | more hlow hhigh ht => exact ⟨_, _, rfl, ⟨hlow, hhigh⟩, ht⟩

theorem lead_of_lt (h : a.toNat < 0x80) : lead a = .whole (Char.ofNat a.toNat) := by
  simp [lead, h]

/-- The first of two bytes. -/
theorem lead_two (hlow : 0xc2 ≤ a.toNat) (hhigh : a.toNat < 0xe0) :
    lead a = .opens ⟨a.toNat - 0xc0, 0, 0x80, 0xbf⟩ := by
  simp only [lead]
  rw [if_neg (by omega), if_neg (by omega), if_pos hhigh]

/-- The first of three bytes. -/
theorem lead_three (hlow : 0xe0 ≤ a.toNat) (hhigh : a.toNat < 0xf0) :
    lead a = .opens ⟨a.toNat - 0xe0, 1, if a.toNat = 0xe0 then 0xa0 else 0x80,
      if a.toNat = 0xed then 0x9f else 0xbf⟩ := by
  simp only [lead]
  rw [if_neg (by omega), if_neg (by omega), if_neg (by omega), if_pos hhigh]

/-- The first of four bytes. -/
theorem lead_four (hlow : 0xf0 ≤ a.toNat) (hhigh : a.toNat < 0xf5) :
    lead a = .opens ⟨a.toNat - 0xf0, 2, if a.toNat = 0xf0 then 0x90 else 0x80,
      if a.toNat = 0xf4 then 0x8f else 0xbf⟩ := by
  simp only [lead]
  rw [if_neg (by omega), if_neg (by omega), if_neg (by omega), if_neg (by omega), if_pos hhigh]

theorem lt_of_whole (h : lead a = .whole c) : a.toNat < 0x80 := by
  simp only [lead] at h
  split_ifs at h
  assumption

/-- A byte that opens a character is the first of two, three or four. -/
theorem range_of_opens (h : lead a = .opens p) :
    (0xc2 ≤ a.toNat ∧ a.toNat < 0xe0) ∨ (0xe0 ≤ a.toNat ∧ a.toNat < 0xf0) ∨
      (0xf0 ≤ a.toNat ∧ a.toNat < 0xf5) := by
  simp only [lead] at h
  split_ifs at h <;> omega

/-- Two bytes spell a character. -/
theorem spells_two {b : UInt8} (ha : 0xc2 ≤ a.toNat ∧ a.toNat < 0xe0)
    (hb : 0x80 ≤ b.toNat ∧ b.toNat ≤ 0xbf) :
    Spells [a, b] ((a.toNat - 0xc0) * 64 + b.toNat % 64) :=
  .opened (lead_two ha.1 ha.2) (.last hb.1 hb.2)

/-- Three bytes spell a character. -/
theorem spells_three {b c : UInt8} (ha : 0xe0 ≤ a.toNat ∧ a.toNat < 0xf0)
    (hb : (if a.toNat = 0xe0 then 0xa0 else 0x80) ≤ b.toNat ∧
      b.toNat ≤ if a.toNat = 0xed then 0x9f else 0xbf)
    (hc : 0x80 ≤ c.toNat ∧ c.toNat ≤ 0xbf) :
    Spells [a, b, c] (((a.toNat - 0xe0) * 64 + b.toNat % 64) * 64 + c.toNat % 64) :=
  .opened (lead_three ha.1 ha.2) (.more hb.1 hb.2 (.last hc.1 hc.2))

/-- Four bytes spell a character. -/
theorem spells_four {b c d : UInt8} (ha : 0xf0 ≤ a.toNat ∧ a.toNat < 0xf5)
    (hb : (if a.toNat = 0xf0 then 0x90 else 0x80) ≤ b.toNat ∧
      b.toNat ≤ if a.toNat = 0xf4 then 0x8f else 0xbf)
    (hc : 0x80 ≤ c.toNat ∧ c.toNat ≤ 0xbf) (hd : 0x80 ≤ d.toNat ∧ d.toNat ≤ 0xbf) :
    Spells [a, b, c, d]
      ((((a.toNat - 0xf0) * 64 + b.toNat % 64) * 64 + c.toNat % 64) * 64 + d.toNat % 64) :=
  .opened (lead_four ha.1 ha.2) (.more hb.1 hb.2 (.more hc.1 hc.2 (.last hd.1 hd.2)))

/-- The form of a character spells it. -/
theorem spells_utf8EncodeChar (c : Char) : Spells (String.utf8EncodeChar c) c.toNat := by
  have hvalid : c.val.toNat < 0xd800 ∨ 0xdfff < c.val.toNat ∧ c.val.toNat < 0x110000 := c.valid
  show Spells (String.utf8EncodeChar c) c.val.toNat
  simp only [String.utf8EncodeChar]
  generalize c.val.toNat = v at hvalid ⊢
  -- each byte is as large as it is written, and the digits of the code point do not wrap
  have hbyte (x : Nat) (hx : x < 256) : (UInt8.ofNat x).toNat = x := by
    rw [UInt8.toNat_ofNat']
    exact Nat.mod_eq_of_lt hx
  have htail := hbyte (v % 64 + 128) (by omega)
  split_ifs with h1 h2 h3
  · have ha := hbyte v (by omega)
    simpa only [ha] using Spells.whole (a := UInt8.ofNat v) (by omega)
  · have ha := hbyte (v / 64 % 32 + 192) (by omega)
    have h := spells_two (a := UInt8.ofNat (v / 64 % 32 + 192))
      (b := UInt8.ofNat (v % 64 + 128)) (by omega) (by omega)
    rwa [ha, htail, show (v / 64 % 32 + 192 - 192) * 64 + (v % 64 + 128) % 64 = v by omega] at h
  · have ha := hbyte (v / 4096 % 16 + 224) (by omega)
    have hb := hbyte (v / 64 % 64 + 128) (by omega)
    have h := spells_three (a := UInt8.ofNat (v / 4096 % 16 + 224))
      (b := UInt8.ofNat (v / 64 % 64 + 128)) (c := UInt8.ofNat (v % 64 + 128)) (by omega)
      (by split_ifs <;> omega) (by omega)
    rwa [ha, hb, htail, show ((v / 4096 % 16 + 224 - 224) * 64 + (v / 64 % 64 + 128) % 64) * 64 +
      (v % 64 + 128) % 64 = v by omega] at h
  · have ha := hbyte (v / 262144 % 8 + 240) (by omega)
    have hb := hbyte (v / 4096 % 64 + 128) (by omega)
    have hc := hbyte (v / 64 % 64 + 128) (by omega)
    have h := spells_four (a := UInt8.ofNat (v / 262144 % 8 + 240))
      (b := UInt8.ofNat (v / 4096 % 64 + 128)) (c := UInt8.ofNat (v / 64 % 64 + 128))
      (d := UInt8.ofNat (v % 64 + 128)) (by omega) (by split_ifs <;> omega) (by omega) (by omega)
    rwa [ha, hb, hc, htail, show (((v / 262144 % 8 + 240 - 240) * 64 +
      (v / 4096 % 64 + 128) % 64) * 64 + (v / 64 % 64 + 128) % 64) * 64 + (v % 64 + 128) % 64 = v
      by omega] at h

/-- A code point of a character, and the form of this character. -/
def Forms (bs : Bytes) (n : Nat) : Prop :=
  n.isValidChar ∧ ∀ c : Char, c.val.toNat = n → String.utf8EncodeChar c = bs

theorem forms_one (ha : a.toNat < 0x80) : Forms [a] a.toNat := by
  refine ⟨.inl (by omega), fun c hc => ?_⟩
  simp only [String.utf8EncodeChar, hc]
  rw [if_pos (by omega), UInt8.ofNat_toNat]

theorem forms_two {b : UInt8} (ha : 0xc2 ≤ a.toNat ∧ a.toNat < 0xe0)
    (hb : 0x80 ≤ b.toNat ∧ b.toNat ≤ 0xbf) :
    Forms [a, b] ((a.toNat - 0xc0) * 64 + b.toNat % 64) := by
  refine ⟨.inl (by omega), fun c hc => ?_⟩
  simp only [String.utf8EncodeChar, hc]
  rw [if_neg (by omega), if_pos (by omega)]
  simp only [List.cons.injEq, ← UInt8.toNat_inj, UInt8.toNat_ofNat', and_true]
  omega

/-- The narrower ranges of the second byte keep out overlong forms and surrogates. -/
theorem forms_three {b c : UInt8} (ha : 0xe0 ≤ a.toNat ∧ a.toNat < 0xf0)
    (hb : (if a.toNat = 0xe0 then 0xa0 else 0x80) ≤ b.toNat ∧
      b.toNat ≤ if a.toNat = 0xed then 0x9f else 0xbf)
    (hc : 0x80 ≤ c.toNat ∧ c.toNat ≤ 0xbf) :
    Forms [a, b, c] (((a.toNat - 0xe0) * 64 + b.toNat % 64) * 64 + c.toNat % 64) := by
  have htail : 0x80 ≤ b.toNat ∧ b.toNat ≤ 0xbf := by split_ifs at hb <;> omega
  refine ⟨?_, fun x hx => ?_⟩
  · simp only [Nat.isValidChar]
    split_ifs at hb <;> omega
  · have hlong : 0x7ff < x.val.toNat := by split_ifs at hb <;> omega
    simp only [String.utf8EncodeChar]
    rw [if_neg (by omega), if_neg (by omega), if_pos (by omega)]
    simp only [List.cons.injEq, ← UInt8.toNat_inj, UInt8.toNat_ofNat', and_true]
    omega

/-- The narrower ranges of the second byte keep out overlong forms and what is too large. -/
theorem forms_four {b c d : UInt8} (ha : 0xf0 ≤ a.toNat ∧ a.toNat < 0xf5)
    (hb : (if a.toNat = 0xf0 then 0x90 else 0x80) ≤ b.toNat ∧
      b.toNat ≤ if a.toNat = 0xf4 then 0x8f else 0xbf)
    (hc : 0x80 ≤ c.toNat ∧ c.toNat ≤ 0xbf) (hd : 0x80 ≤ d.toNat ∧ d.toNat ≤ 0xbf) :
    Forms [a, b, c, d]
      ((((a.toNat - 0xf0) * 64 + b.toNat % 64) * 64 + c.toNat % 64) * 64 + d.toNat % 64) := by
  have htail : 0x80 ≤ b.toNat ∧ b.toNat ≤ 0xbf := by split_ifs at hb <;> omega
  refine ⟨?_, fun x hx => ?_⟩
  · simp only [Nat.isValidChar]
    split_ifs at hb <;> omega
  · have hlong : 0xffff < x.val.toNat := by split_ifs at hb <;> omega
    simp only [String.utf8EncodeChar]
    rw [if_neg (by omega), if_neg (by omega), if_neg (by omega)]
    simp only [List.cons.injEq, ← UInt8.toNat_inj, UInt8.toNat_ofNat', and_true]
    omega

theorem forms_of_spells (h : Spells bs n) : Forms bs n := by
  cases h with
  | whole ha => exact forms_one ha
  | opened ha ht =>
    rcases range_of_opens ha with hr | hr | hr
    · rw [lead_two hr.1 hr.2] at ha
      obtain rfl := Lead.opens.inj ha
      obtain ⟨b, rfl, hb, rfl⟩ := ht.exists_last
      exact forms_two hr hb
    · rw [lead_three hr.1 hr.2] at ha
      obtain rfl := Lead.opens.inj ha
      obtain ⟨b, _, rfl, hb, ht⟩ := ht.exists_more
      obtain ⟨c, rfl, hc, rfl⟩ := ht.exists_last
      exact forms_three hr hb hc
    · rw [lead_four hr.1 hr.2] at ha
      obtain rfl := Lead.opens.inj ha
      obtain ⟨b, _, rfl, hb, ht⟩ := ht.exists_more
      obtain ⟨c, _, rfl, hc, ht⟩ := ht.exists_more
      obtain ⟨d, rfl, hd, rfl⟩ := ht.exists_last
      exact forms_four hr hb hc hd

/-- What is spelled is the form of a character. -/
theorem exists_char_of_spells (h : Spells bs n) :
    ∃ c : Char, c.toNat = n ∧ String.utf8EncodeChar c = bs := by
  obtain ⟨hvalid, hform⟩ := forms_of_spells h
  exact ⟨Char.ofNatAux n hvalid, rfl, hform _ rfl⟩

/-! ## 2. Reading a character -/

/-- Inside a character its last byte is read. -/
theorem readFrom_last {bits low high : Nat} (h : low ≤ b.toNat ∧ b.toNat ≤ high) :
    readFrom (some ⟨bits, 0, low, high⟩) (b :: bs) =
      some (Char.ofNat (bits * 64 + b.toNat % 64)) :: readFrom none bs := by
  simp [readFrom, h]

/-- Inside a character a byte of it is read. -/
theorem readFrom_more {bits more low high : Nat} (h : low ≤ b.toNat ∧ b.toNat ≤ high) :
    readFrom (some ⟨bits, more + 1, low, high⟩) (b :: bs) =
      readFrom (some ⟨bits * 64 + b.toNat % 64, more, 0x80, 0xbf⟩) bs := by
  simp [readFrom, h]

/-- The rest of a character is read. -/
theorem readFrom_of_completes (h : Completes p t n) (rest : Bytes) :
    readFrom (some p) (t ++ rest) = some (Char.ofNat n) :: readFrom none rest := by
  induction h with
  | last hlow hhigh => exact readFrom_last ⟨hlow, hhigh⟩
  | more hlow hhigh _ ih => rw [List.cons_append, readFrom_more ⟨hlow, hhigh⟩, ih]

/-- **What is spelled is read.** -/
theorem read_of_spells (h : Spells bs n) (rest : Bytes) :
    read (bs ++ rest) = some (Char.ofNat n) :: read rest := by
  cases h with
  | whole ha => simp [read, readFrom, lead_of_lt ha]
  | opened ha ht =>
    rw [read, List.cons_append, readFrom, ha]
    exact readFrom_of_completes ht rest

/-- Inside a character, where no fault is found, the character is completed. -/
theorem exists_completes_of_readFrom : ∀ {bs : Bytes} {p : Unfinished},
    none ∉ readFrom (some p) bs → ∃ t n rest, bs = t ++ rest ∧ Completes p t n
  | [], _, h => by simp [readFrom] at h
  | b :: bs, ⟨bits, more, low, high⟩, h => by
    by_cases hb : low ≤ b.toNat ∧ b.toNat ≤ high
    · cases more with
      | zero => exact ⟨[b], _, bs, rfl, .last hb.1 hb.2⟩
      | succ more =>
        rw [readFrom_more hb] at h
        obtain ⟨t, n, rest, rfl, ht⟩ := exists_completes_of_readFrom h
        exact ⟨b :: t, n, rest, rfl, .more hb.1 hb.2 ht⟩
    · simp [readFrom, hb] at h

/-- **Where no fault is found, something is spelled.** -/
theorem exists_spells_of_read (h : none ∉ read (b :: bs)) :
    ∃ t n rest, b :: bs = t ++ rest ∧ Spells t n := by
  rw [read, readFrom] at h
  cases hb : lead b with
  | whole c => exact ⟨[b], b.toNat, bs, rfl, .whole (lt_of_whole hb)⟩
  | opens p =>
    rw [hb] at h
    obtain ⟨t, n, rest, rfl, ht⟩ := exists_completes_of_readFrom h
    exact ⟨b :: t, n, rest, rfl, .opened hb ht⟩
  | fault => simp [hb] at h

/-! ## 3. Reading a text -/

/-- A character is read from its form. -/
theorem read_utf8EncodeChar (c : Char) (rest : Bytes) :
    read (String.utf8EncodeChar c ++ rest) = some c :: read rest := by
  rw [read_of_spells (spells_utf8EncodeChar c), Char.ofNat_toNat]

/-- A text is read from its form. -/
theorem read_utf8 : ∀ s : Text, read s.utf8 = s.map some
  | [] => rfl
  | c :: s => by
    rw [Text.utf8, List.flatMap_cons, read_utf8EncodeChar, List.map_cons]
    exact congrArg _ (read_utf8 s)

/-- Where a text is read, there is its form. -/
theorem eq_utf8_of_read : ∀ {s : Text} {bs : Bytes}, read bs = s.map some → bs = s.utf8
  | [], [], _ => rfl
  | _ :: _, [], h => nomatch h
  | s, b :: bs, h => by
    have hfault : none ∉ read (b :: bs) := by
      rw [h, List.mem_map]
      exact fun ⟨_, _, hc⟩ => nomatch hc
    obtain ⟨t, n, rest, heq, ht⟩ := exists_spells_of_read hfault
    obtain ⟨c, rfl, rfl⟩ := exists_char_of_spells ht
    rw [heq, read_utf8EncodeChar] at h
    cases s with
    | nil => nomatch h
    | cons d s =>
      obtain ⟨hcd, hrest⟩ := List.cons.inj h
      obtain rfl := Option.some.inj hcd
      rw [heq, eq_utf8_of_read hrest, Text.utf8, Text.utf8, List.flatMap_cons]
termination_by s => s.length

/-- Characters without a fault among them are a text. -/
theorem mapM_id_eq_some_iff : ∀ {xs : List (Option Char)} {s : Text},
    xs.mapM id = some s ↔ xs = s.map some
  | [], [] => by simp
  | [], _ :: _ => by simp
  | none :: xs, s => by cases s <;> simp [List.mapM_cons]
  | some c :: xs, s => by
    have hcons : (some c :: xs).mapM id = (xs.mapM id).map (c :: ·) := by
      rw [List.mapM_cons]
      cases xs.mapM id <;> rfl
    rw [hcons, Option.map_eq_some_iff]
    constructor
    · rintro ⟨u, hu, rfl⟩
      rw [mapM_id_eq_some_iff.mp hu, List.map_cons]
    · intro h
      cases s with
      | nil => nomatch h
      | cons d s =>
        obtain ⟨hcd, hrest⟩ := List.cons.inj h
        exact ⟨s, mapM_id_eq_some_iff.mpr hrest, congrArg (· :: s) (Option.some.inj hcd)⟩

/-- **Reading undoes writing.**  Bytes are read as a text exactly when they are its form. -/
theorem decode?_eq_some_iff : decode? bs = some s ↔ bs = s.utf8 := by
  rw [decode?, mapM_id_eq_some_iff]
  constructor
  · exact eq_utf8_of_read
  · rintro rfl
    exact read_utf8 s

end Utf8
end Stencil
