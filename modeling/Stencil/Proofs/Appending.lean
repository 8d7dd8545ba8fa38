/-
# Encoding filters lose nothing

A filter at work is given a buffer and adds to its end what it makes of a value.  The encoding
filters go about this in different ways: digit by digit, run by run, or over zeros that are put at
the end first and cut back after.  Neither this nor what the buffer held shows in what they add, and
the value is read from it again.

* `Appending`: a filter at work, a step on the bytes of a buffer.
* `Hex.append`, `Base64.append`, `Form.append`: the encoding filters at work.
* `Hex.append_eq`, `Base64.append_eq`, `Form.append_eq`: each adds the encoded form of its value.
* `Filter.encodings_lossless`: the whole account of the four filters.
-/
import Stencil.Filter
import Stencil.Power
import Stencil.Proofs.FormReading

namespace Stencil

/-- A filter at work: it changes the bytes of a buffer, and can fail with a reason. -/
abbrev Appending := EStateM Text Bytes Unit

/-! ## 1. Additions in a row -/

namespace Appending

/-- Adds bytes to the end of the buffer. -/
def extend (b : Bytes) : Appending := modify (· ++ b)

theorem extend_eq (b dst : Bytes) : extend b dst = .ok () (dst ++ b) := rfl

variable {α : Type} {f : α → Bytes} {act act' : Appending} {add : α → Appending}
  {b b' dst : Bytes}

/-- What two steps add, they add one after the other. -/
theorem seq_eq (h : act dst = .ok () (dst ++ b)) (h' : act' (dst ++ b) = .ok () (dst ++ b ++ b')) :
    (do act; act' : Appending) dst = .ok () (dst ++ (b ++ b')) := by
  simp [bind, EStateM.bind, h, h']

/-- **What a step adds for each element, the steps for a whole list add in turn.** -/
theorem forM_eq (h : ∀ x dst, add x dst = .ok () (dst ++ f x)) (xs : List α) (dst : Bytes) :
    xs.forM add dst = .ok () (dst ++ xs.flatMap f) := by
  induction xs generalizing dst with
  | nil => simp [pure, EStateM.pure]
  | cons x xs ih =>
    rw [List.forM_eq_forM] at ih ⊢
    rw [List.forM_cons, List.flatMap_cons]
    exact seq_eq (h x dst) (ih (dst ++ f x))

end Appending

/-! ## 2. Digit by digit -/

namespace Hex

/-- Adds two digits for each byte. -/
def append (v : Bytes) : Appending :=
  v.forM fun b => do
    Appending.extend [digit (b >>> 4)]
    Appending.extend [digit (b &&& 15)]

theorem append_eq (v dst : Bytes) : append v dst = .ok () (dst ++ encode v) := by
  refine Appending.forM_eq (f := encodeByte) (fun b dst => ?_) v dst
  exact Appending.seq_eq (Appending.extend_eq _ _) (Appending.extend_eq _ _)

end Hex

/-! ## 3. Over zeros -/

namespace Base64

variable {a : Alphabet} {v dst room : Bytes}

/-- A number, if it fits in a word. -/
def fitting? (n : Nat) : Option Nat := if n < twoTo 64 then some n else none

/-- The length of the encoded form of `n` bytes, if it fits in a word. -/
def encodedLength? (n : Nat) : Option Nat :=
  let full := fitting? (n / 3 * 4)
  if n % 3 = 0 then full else full.bind fun m => fitting? (m + 4)

/-- Writes an encoded form over the front of `room`, if it fits there.  Gives the whole of `room` then,
and how much of it was written over. -/
def writeOver? (a : Alphabet) (v room : Bytes) : Option (Bytes × Nat) :=
  let form := encode a v
  if form.length ≤ room.length then some (form ++ room.drop form.length, form.length) else none

/-- Makes a buffer `n` bytes long, by zeros at its end or by cutting it. -/
def resize (dst : Bytes) (n : Nat) : Bytes := dst.take n ++ List.replicate (n - dst.length) 0

/-- Puts zeros at the end, writes an encoded form over them, and cuts off what is left. -/
def append (a : Alphabet) (v : Bytes) : Appending := fun dst =>
  match encodedLength? v.length with
  | none => .error "base64 output length overflows usize".toList dst
  | some length =>
    let longer := resize dst (dst.length + length)
    match writeOver? a v (longer.drop dst.length) with
    | none => .error "Output slice too small".toList longer
    | some (room, written) => .ok () ((longer.take dst.length ++ room).take (dst.length + written))

theorem encodedLength?_eq (n : Nat) : encodedLength? n =
    if 4 * ((n + 2) / 3) < twoTo 64 then some (4 * ((n + 2) / 3)) else none := by
  generalize hbound : twoTo 64 = bound
  simp only [encodedLength?, fitting?, hbound]
  split
  · next hfull =>
    have hlength : n / 3 * 4 = 4 * ((n + 2) / 3) := by omega
    rw [hlength]
  · next hrest =>
    have hlength : n / 3 * 4 + 4 = 4 * ((n + 2) / 3) := by omega
    split
    · rw [Option.bind_some, hlength]
    · rw [Option.bind_none, if_neg (by omega)]

theorem resize_add (dst : Bytes) (n : Nat) :
    resize dst (dst.length + n) = dst ++ List.replicate n 0 := by
  rw [resize, List.take_of_length_le (Nat.le_add_right _ _), Nat.add_sub_cancel_left]

/-- What is written over a room of just the right length, fills it. -/
theorem writeOver?_eq (h : room.length = (encode a v).length) :
    writeOver? a v room = some (encode a v, (encode a v).length) := by
  simp [writeOver?, h, List.drop_eq_nil_of_le]

/-- **The zeros are all written over**, and where there are too many to count, nothing is done. -/
theorem append_eq (a : Alphabet) (v dst : Bytes) : append a v dst =
    if 4 * ((v.length + 2) / 3) < twoTo 64 then .ok () (dst ++ encode a v)
    else .error "base64 output length overflows usize".toList dst := by
  rw [append, encodedLength?_eq]
  by_cases hfit : 4 * ((v.length + 2) / 3) < twoTo 64
  · have hroom : (List.replicate (4 * ((v.length + 2) / 3)) (0 : UInt8)).length =
        (encode a v).length := by
      rw [List.length_replicate, length_encode]
    rw [if_pos hfit, if_pos hfit]
    simp only [resize_add, List.drop_left, writeOver?_eq hroom, List.take_left]
    rw [← List.length_append, List.take_length]
  · rw [if_neg hfit, if_neg hfit]

end Base64

/-! ## 4. Run by run -/

namespace Form

/-- The encoded form in parts: runs of plain bytes as they are, and every other byte by itself. -/
def parts : Bytes → List Bytes
  | [] => []
  | b :: v =>
    if isPlain b then (b :: v.takeWhile isPlain) :: parts (v.dropWhile isPlain)
    else encodeByte b :: parts v
termination_by v => v.length
decreasing_by
  · exact Nat.lt_succ_of_le (List.dropWhile_suffix _).length_le
  · exact Nat.lt_succ_self _

/-- Adds part by part. -/
def append (v : Bytes) : Appending := (parts v).forM Appending.extend

/-- Plain bytes are their own form. -/
theorem encode_of_plain {v : Bytes} (h : ∀ b ∈ v, isPlain b = true) : encode v = v := by
  induction v with
  | nil => rfl
  | cons b v ih =>
    obtain ⟨hb, hv⟩ := List.forall_mem_cons.mp h
    rw [encode, List.flatMap_cons, encodeByte, if_pos hb]
    exact congrArg (b :: ·) (ih hv)

/-- **The parts make up the encoded form.** -/
theorem flatten_parts (v : Bytes) : (parts v).flatten = encode v := by
  induction v using parts.induct with
  | case1 => rw [parts]; rfl
  | case2 b v hb ih =>
    have hrun : ∀ c ∈ b :: v.takeWhile isPlain, isPlain c = true :=
      List.forall_mem_cons.mpr ⟨hb, List.all_eq_true.mp List.all_takeWhile⟩
    rw [parts, if_pos hb, List.flatten_cons, ih]
    calc b :: v.takeWhile isPlain ++ encode (v.dropWhile isPlain)
      _ = encode (b :: v.takeWhile isPlain) ++ encode (v.dropWhile isPlain) := by
        rw [encode_of_plain hrun]
      _ = encode (b :: (v.takeWhile isPlain ++ v.dropWhile isPlain)) := List.flatMap_append.symm
      _ = encode (b :: v) := by rw [List.takeWhile_append_dropWhile]
  | case3 b v hb ih =>
    rw [parts, if_neg hb, List.flatten_cons, ih, encode, encode, List.flatMap_cons]

theorem append_eq (v dst : Bytes) : append v dst = .ok () (dst ++ encode v) := by
  rw [append, Appending.forM_eq (f := id) Appending.extend_eq, List.flatMap_id, flatten_parts]

end Form

/-! ## 5. The four filters -/

namespace Filter

/-- The built-in filter of a name loses nothing of `v`: it writes all that it has to.  At work it ends
well on a buffer that holds `dst` and adds just that, from which `decode?` reads `v`. -/
structure Lossless (f : Filter) (name : Text) (append : Bytes → Appending)
    (decode? : Bytes → Option Bytes) (v dst : Bytes) : Prop where
  registered : Registry.builtin.get? name = some f
  failure : (f v).failure = none
  run : append v dst = .ok () (dst ++ (f v).written)
  decode : decode? (f v).written = some v

/-- Base 64 loses nothing in a proper alphabet, where its length fits in a word. -/
theorem lossless_base64 {a : Base64.Alphabet} (ha : a.Proper) {name : Text} {v dst : Bytes}
    (hname : Registry.builtin.get? name = some (total (Base64.encode a)))
    (hsize : 4 * ((v.length + 2) / 3) < twoTo 64) :
    (total (Base64.encode a)).Lossless name (Base64.append a) (Base64.decode? a) v dst where
  registered := hname
  failure := rfl
  run := (Base64.append_eq a v dst).trans (if_pos hsize)
  decode := ha.decode?_encode v

open Base64 (standard urlSafe proper_standard proper_urlSafe)

/-- **The encoding filters lose nothing and only add to the buffer**, for all values and whatever
the buffer holds; base 64 as long as its length fits in a word.  The hex form and base 64 have just
the lengths that their standards give them, and nothing else is read as the value. -/
theorem encodings_lossless (v dst : Bytes) :
    (hex.Lossless "hex".toList Hex.append Hex.decode? v dst ∧
      (hex v).written.length = 2 * v.length ∧
      ∀ w, Hex.decode? w = some v → w = (hex v).written) ∧
    (4 * ((v.length + 2) / 3) < twoTo 64 →
      base64.Lossless "base64".toList (Base64.append standard) (Base64.decode? standard) v dst ∧
      base64url.Lossless "base64url".toList (Base64.append urlSafe) (Base64.decode? urlSafe) v
        dst) ∧
    ((base64 v).written.length = 4 * ((v.length + 2) / 3) ∧
      ∀ w, Base64.decode? standard w = some v → w = (base64 v).written) ∧
    ((base64url v).written.length = 4 * ((v.length + 2) / 3) ∧
      ∀ w, Base64.decode? urlSafe w = some v → w = (base64url v).written) ∧
    urlquery.Lossless "urlquery".toList Form.append (some ∘ Form.decode) v dst := by
  refine ⟨⟨?hex, Hex.length_encode v, fun _ => Hex.eq_encode_of_decode?⟩,
    fun hsize => ⟨?base64, ?base64url⟩,
    ⟨Base64.length_encode _ v, fun _ => proper_standard.eq_encode_of_decode?⟩,
    ⟨Base64.length_encode _ v, fun _ => proper_urlSafe.eq_encode_of_decode?⟩, ?urlquery⟩
  case hex => exact ⟨rfl, rfl, Hex.append_eq v dst, Hex.decode?_encode v⟩
  case base64 => exact lossless_base64 proper_standard rfl hsize
  case base64url => exact lossless_base64 proper_urlSafe rfl hsize
  case urlquery => exact ⟨rfl, rfl, Form.append_eq v dst, congrArg some (Form.decode_encode v)⟩

end Filter

namespace Sample

open Base64 (standard urlSafe)

/-- Two bytes whose base 64 has the digits of 62 and 63 and a padding sign. -/
def signs : Bytes := [0xfb, 0xff]

/-- What a buffer holds before. -/
def kept : Bytes := Text.utf8 "keep".toList

/-- The filters add to what is kept, and the two bytes are read again. -/
theorem encodings_lossless_signs :
    4 * ((signs.length + 2) / 3) < twoTo 64 ∧
      Hex.append signs kept = .ok () (Text.utf8 "keepfbff".toList) ∧
      Base64.append standard signs kept = .ok () (Text.utf8 "keep+/8=".toList) ∧
      Base64.append urlSafe signs kept = .ok () (Text.utf8 "keep-_8=".toList) ∧
      Form.append signs kept = .ok () (Text.utf8 "keep%FB%FF".toList) ∧
      Base64.decode? standard (Text.utf8 "+/8=".toList) = some signs := by
  have hsize : 4 * ((signs.length + 2) / 3) < twoTo 64 := by decide
  obtain ⟨⟨hhex, -⟩, hbase64, -, -, hquery⟩ := Filter.encodings_lossless signs kept
  obtain ⟨hstandard, hurl⟩ := hbase64 hsize
  exact ⟨hsize, hhex.run, hstandard.run, hurl.run, hquery.run, hstandard.decode⟩

end Sample

end Stencil
