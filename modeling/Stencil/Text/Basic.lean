/-
# Texts and bytes

A text is a list of characters and an output a list of bytes.  Offsets and sizes of a text
count the bytes of its UTF-8 form, so this file relates the two:

* `Text.utf8`: the bytes of a text;
* `Text.byteLength`: how many there are;
* `Text.dropBytes?`: the rest of a text from a byte offset on, which exists only at a
  character boundary (`dropBytes?_append`).
-/
namespace Stencil

/-- A text: Unicode scalar values in order. -/
abbrev Text := List Char

/-- Rendered output, or a value on its way through filters. -/
abbrev Bytes := List UInt8

namespace Text

/-- The UTF-8 form of a text. -/
def utf8 (s : Text) : Bytes := s.flatMap String.utf8EncodeChar

/-- The number of bytes of the UTF-8 form. -/
def byteLength : Text → Nat
  | [] => 0
  | c :: s => c.utf8Size + byteLength s

/-- The text from byte offset `n` on; `none` past the end and inside a character. -/
def dropBytes? : Nat → Text → Option Text
  | 0, s => some s
  | _ + 1, [] => none
  | n + 1, c :: s => if c.utf8Size ≤ n + 1 then dropBytes? (n + 1 - c.utf8Size) s else none

@[simp] theorem utf8_nil : utf8 [] = [] := rfl

@[simp] theorem utf8_append (s t : Text) : utf8 (s ++ t) = utf8 s ++ utf8 t := by
  simp [utf8]

@[simp] theorem byteLength_append : ∀ s t : Text,
    byteLength (s ++ t) = byteLength s + byteLength t
  | [], t => by simp [byteLength]
  | c :: s, t => by simp [byteLength, byteLength_append s t, Nat.add_assoc]

/-- Dropping exactly the bytes of a first part leaves the second. -/
theorem dropBytes?_append : ∀ s t : Text, dropBytes? (byteLength s) (s ++ t) = some t
  | [], t => by cases t <;> rfl
  | c :: s, t => by
    have hc : 0 < c.utf8Size := c.utf8Size_pos
    obtain ⟨n, hn⟩ : ∃ n, byteLength (c :: s) = n + 1 :=
      ⟨byteLength (c :: s) - 1, by simp only [byteLength]; omega⟩
    have hle : c.utf8Size ≤ n + 1 := by simp only [byteLength] at hn; omega
    have hsub : n + 1 - c.utf8Size = byteLength s := by simp only [byteLength] at hn; omega
    rw [hn, List.cons_append, dropBytes?, if_pos hle, hsub]
    exact dropBytes?_append s t

/-- The texts of a list with `sep` between each two neighbours. -/
def join (sep : Text) : List Text → Text
  | [] => []
  | [s] => s
  | s :: t :: rest => s ++ sep ++ join sep (t :: rest)

theorem join_eq_intercalate (sep : Text) : ∀ items : List Text,
    join sep items = sep.intercalate items
  | [] => rfl
  | [s] => by simp [join]
  | s :: t :: rest => by
    rw [join, join_eq_intercalate sep (t :: rest)]
    simp [List.intercalate]

/-- Each text of a list is in what they are joined to. -/
theorem infix_join {s : Text} (sep : Text) : ∀ {parts : List Text}, s ∈ parts →
    s <:+: join sep parts
  | [_], h => List.mem_singleton.mp h ▸ List.infix_refl _
  | t :: t' :: rest, h => by
    rw [join]
    rcases List.mem_cons.mp h with rfl | h
    · rw [List.append_assoc]
      exact (List.prefix_append _ _).isInfix
    · exact (infix_join sep h).trans (List.suffix_append _ _).isInfix

end Text
end Stencil
