/-
# The order of texts is the order of their bytes

Texts are compared character by character.  This file shows that comparing the bytes of their UTF-8
forms comes to the same (`Text.utf8_lt_utf8_iff`), so that whatever is sorted by text is sorted by
bytes.

Of two characters the smaller one has the smaller form, and the forms differ before either of them
ends (`utf8EncodeChar_append_lt`): forms of different lengths differ in their first byte, and forms
of one length write the code point in base 64, the first byte with an offset of its own.
-/
import Mathlib.Tactic.ByContra
import Mathlib.Tactic.SplitIfs
import Stencil.Dict

namespace Stencil
namespace Text

/-! ## 1. Characters -/

/-- Lists of one length that differ are ordered before anything after them counts. -/
theorem append_lt_append_of_lt {a b : Bytes} (h : a < b) (hlen : a.length = b.length)
    (x y : Bytes) : a ++ x < b ++ y := by
  induction a generalizing b with
  | nil =>
    obtain rfl := List.length_eq_zero_iff.mp hlen.symm
    exact absurd h (List.lt_irrefl [])
  | cons u a ih =>
    cases b with
    | nil => simp at hlen
    | cons v b =>
      rw [List.cons_append, List.cons_append, List.cons_lt_cons_iff]
      rcases List.cons_lt_cons_iff.mp h with huv | ⟨rfl, hab⟩
      · exact .inl huv
      · exact .inr ⟨rfl, ih hab (by simpa using hlen)⟩

/-- The form of a smaller character is not longer. -/
theorem length_utf8EncodeChar_le {c d : Char} (h : c.val.toNat < d.val.toNat) :
    (String.utf8EncodeChar c).length ≤ (String.utf8EncodeChar d).length := by
  simp only [String.utf8EncodeChar]
  split_ifs <;> simp only [List.length_cons, List.length_nil] <;> omega

/-- Forms of one length are ordered as the code points. -/
theorem utf8EncodeChar_lt_of_length_eq {c d : Char} (h : c.val.toNat < d.val.toNat)
    (hlen : (String.utf8EncodeChar c).length = (String.utf8EncodeChar d).length) :
    String.utf8EncodeChar c < String.utf8EncodeChar d := by
  have hd : d.val.toNat < 1114112 := by
    rcases d.valid with hv | ⟨-, hv⟩
    · exact Nat.lt_trans hv (by decide)
    · exact hv
  simp only [String.utf8EncodeChar] at hlen ⊢
  generalize c.val.toNat = m at h hlen ⊢
  generalize d.val.toNat = n at h hlen hd ⊢
  -- four lengths remain, and in each of them the bytes are digits that do not wrap
  split_ifs at hlen ⊢ <;>
    simp only [List.length_cons, List.length_nil, Nat.reduceAdd, Nat.reduceEqDiff] at hlen <;>
    simp only [List.cons_lt_cons_iff, UInt8.lt_iff_toNat_lt, ← UInt8.toNat_inj, UInt8.toNat_ofNat',
      List.not_lt_nil, and_false, or_false] <;>
    simp (disch := omega) only [Nat.mod_eq_of_lt] <;>
    omega

/-- A shorter form has a smaller first byte. -/
theorem utf8EncodeChar_append_lt_of_length_lt {c d : Char}
    (hlen : (String.utf8EncodeChar c).length < (String.utf8EncodeChar d).length) (x y : Bytes) :
    String.utf8EncodeChar c ++ x < String.utf8EncodeChar d ++ y := by
  simp only [String.utf8EncodeChar] at hlen ⊢
  split_ifs at hlen ⊢ <;>
    simp only [List.length_cons, List.length_nil, Nat.reduceAdd, Nat.reduceLT] at hlen <;>
    refine List.cons_lt_cons_iff.mpr (.inl ?_) <;>
    simp only [UInt8.lt_iff_toNat_lt, UInt8.toNat_ofNat'] <;>
    omega

/-- **The smaller of two characters has the smaller form**, whatever stands after the forms. -/
theorem utf8EncodeChar_append_lt {c d : Char} (h : c < d) (x y : Bytes) :
    String.utf8EncodeChar c ++ x < String.utf8EncodeChar d ++ y := by
  have hval : c.val.toNat < d.val.toNat := h
  rcases Nat.lt_or_eq_of_le (length_utf8EncodeChar_le hval) with hlen | hlen
  · exact utf8EncodeChar_append_lt_of_length_lt hlen x y
  · exact append_lt_append_of_lt (utf8EncodeChar_lt_of_length_eq hval hlen) hlen x y

/-! ## 2. Texts -/

theorem utf8_lt_utf8_of_lt {s t : Text} (h : s < t) : utf8 s < utf8 t := by
  induction s generalizing t with
  | nil =>
    cases t with
    | nil => exact absurd h (List.lt_irrefl [])
    | cons d t =>
      have hne : utf8 (d :: t) ≠ [] := by simp [utf8, String.utf8EncodeChar_ne_nil]
      obtain ⟨b, bs, hb⟩ := List.exists_cons_of_ne_nil hne
      rw [hb]
      exact List.nil_lt_cons b bs
  | cons c s ih =>
    cases t with
    | nil => exact absurd h (List.not_lt_nil _)
    | cons d t =>
      rcases List.cons_lt_cons_iff.mp h with hcd | ⟨rfl, hst⟩
      · exact utf8EncodeChar_append_lt hcd (utf8 s) (utf8 t)
      · exact List.append_left_lt (ih hst)

/-- **Texts are ordered as their bytes.** -/
theorem utf8_lt_utf8_iff {s t : Text} : utf8 s < utf8 t ↔ s < t := by
  constructor
  · intro h
    by_contra hst
    have hne : s ≠ t := fun he => List.lt_irrefl (utf8 t) (he ▸ h)
    exact List.lt_asymm h (utf8_lt_utf8_of_lt (Dict.lt_of_not_lt_of_ne hst hne))
  · exact utf8_lt_utf8_of_lt

end Text

/-- The keys of a dictionary are in the order of their bytes. -/
theorem Dict.pairwise_keys {α : Type} (d : Dict α) :
    d.keys.Pairwise fun a b => a.utf8 < b.utf8 :=
  List.pairwise_map.mpr (d.ascending.imp Text.utf8_lt_utf8_iff.mpr)

end Stencil
