/-
# Tokens put together and taken apart

`Token.make` puts a name and filters together, and splitting takes a token apart at its first colon.
A name or a filter that holds a colon is taken apart there, too, and a filter with nothing in it is
not seen again; apart from this the parts come back.  Token text that was taken apart and put together
has the parts that it had, and stays as it is when this is done again.

* `Token.split_make`: where a made token is split.  `Token.filterNames_append_chain`: which filters
  are read from a chain behind a text.
* `Token.name_of_make`, `Token.filters_of_make`: the parts of a made token, whatever it was made of.
* `Delimiters.append`: writing a token to the end of a buffer, part by part.  `Delimiters.append_eq`:
  what is added is the echo of the token.
* `Token.make_and_split`: the whole account.
-/
import Stencil.Proofs.Appending
import Stencil.Proofs.Canonical

namespace Stencil
namespace Token

/-! ## 1. The parts of a made token -/

/-- **A made token is split where its first part is**, before the chain if there is no colon in it. -/
theorem split_make (m : Text) (fs : List Text) :
    split (make m fs).text = ((split m).1, (split m).2 ++ chain fs) := by
  refine split_eq_iff.mpr ⟨?_, not_mem_split m, ?_⟩
  · rw [← List.append_assoc, split_append]
    rfl
  · rcases split_snd_eq m with hm | ⟨r, hm⟩
    · rw [hm, List.nil_append]
      exact chain_eq_nil_or_cons fs
    · rw [hm]
      exact .inr ⟨r ++ chain fs, rfl⟩

/-- The filters on the two sides of a colon are read apart. -/
theorem filterNames_append_cons (a b : Text) :
    filterNames (a ++ ':' :: b) = filterNames a ++ filterNames b := by
  rw [filterNames, List.splitOn_append_cons_self, List.filter_append]
  rfl

/-- **Behind any text, a chain brings in the filters that its elements hold.** -/
theorem filterNames_append_chain (a : Text) (fs : List Text) :
    filterNames (a ++ chain fs) = filterNames a ++ fs.flatMap filterNames := by
  induction fs generalizing a with
  | nil => simp [chain]
  | cons f fs ih =>
    cases f with
    | nil => exact ih a
    | cons c f =>
      have hchain : chain ((c :: f) :: fs) = ':' :: (c :: f ++ chain fs) := rfl
      rw [hchain, filterNames_append_cons, ih, List.flatMap_cons]

theorem name_of_make (m : Text) (fs : List Text) : (make m fs).name = (split m).1 := by
  rw [name, split_make]

theorem filters_of_make (m : Text) (fs : List Text) :
    (make m fs).filters = filterNames (split m).2 ++ fs.flatMap filterNames := by
  rw [filters, suffix, split_make, filterNames_append_chain]

/-- Filters are the segments between colons that are not empty, all in one row. -/
theorem filterNames_append_flatMap (a : Text) (fs : List Text) :
    filterNames a ++ fs.flatMap filterNames =
      (a.splitOn ':' ++ fs.flatMap (·.splitOn ':')).filter fun f => !f.isEmpty := by
  rw [List.filter_append, List.filter_flatMap]
  rfl

/-- The bytes of a chain are those of its filters, with a colon before each. -/
theorem utf8_chain (suffix : Text) : (chain (filterNames suffix)).utf8 =
    (filterNames suffix).flatMap fun f => 0x3a :: f.utf8 := by
  rw [chain, filter_filterNames, Text.utf8, List.flatMap_assoc]
  rfl

end Token

/-! ## 2. Tokens at the end of a buffer -/

namespace Delimiters

/-- Adds a macro and the filters of a suffix between the markers to a buffer, part by part. -/
def append (d : Delimiters) (name suffix : Text) : Appending := do
  Appending.extend d.start.utf8
  Appending.extend name.utf8
  (Token.filterNames suffix).forM fun f => do
    Appending.extend [0x3a]
    Appending.extend f.utf8
  Appending.extend d.stop.utf8

/-- **What is added is the echo.** -/
theorem append_eq (d : Delimiters) (name suffix : Text) (dst : Bytes) :
    d.append name suffix dst = .ok () (dst ++ (d.echo name suffix).utf8) := by
  have hfilter (f : Text) (dst : Bytes) :
      (do Appending.extend [0x3a]; Appending.extend f.utf8 : Appending) dst =
        .ok () (dst ++ 0x3a :: f.utf8) :=
    Appending.seq_eq (Appending.extend_eq _ _) (Appending.extend_eq _ _)
  have hecho : (d.echo name suffix).utf8 = d.start.utf8 ++ (name.utf8 ++
      (((Token.filterNames suffix).flatMap fun f => 0x3a :: f.utf8) ++ d.stop.utf8)) := by
    simp only [echo, placeholder, Text.utf8_append, Token.utf8_chain, List.append_assoc]
  rw [hecho]
  exact Appending.seq_eq (Appending.extend_eq _ _) <|
    Appending.seq_eq (Appending.extend_eq _ _) <|
    Appending.seq_eq (Appending.forM_eq hfilter _ _) (Appending.extend_eq _ _)

end Delimiters

/-! ## 3. Both ways -/

/-- **Putting together and taking apart.**  The name of a made token is its first part up to a colon.
Its filters are what stands between the colons of the rest of this part and of the other parts, in
their order and without what is empty; so parts without colons come back, apart from empty ones.

Token text that is taken apart and put together keeps its name and its filters, does not change any
more when this is done again, and is the same text exactly when it has no empty filter.  When what it
was taken apart into is written to a buffer between markers, the text put together is added. -/
theorem Token.make_and_split :
    (∀ (m : Text) (fs : List Text),
      (make m fs).name = m.takeWhile (· != ':') ∧
      (make m fs).filters =
        ((m.dropWhile (· != ':')).splitOn ':' ++ fs.flatMap (·.splitOn ':')).filter
          (fun f => !f.isEmpty) ∧
      (':' ∉ m → (∀ f ∈ fs, ':' ∉ f) →
        (make m fs).name = m ∧ (make m fs).filters = fs.filter fun f => !f.isEmpty)) ∧
    ∀ s : Text,
      (rejoin s).name = (split s).1 ∧ (rejoin s).filters = filterNames (split s).2 ∧
      rejoin (rejoin s).text = rejoin s ∧
      (rejoin s = ⟨s⟩ ↔ [] ∉ ((split s).2.splitOn ':').tail) ∧
      ∀ (d : Delimiters) (dst : Bytes), d.append (split s).1 (split s).2 dst =
        .ok () (dst ++ (d.start ++ (rejoin s).text ++ d.stop).utf8) := by
  refine ⟨fun m fs => ⟨name_of_make m fs, ?segments, fun hm hfs => ⟨name_make hm fs, ?parts⟩⟩,
    fun s => ⟨name_make (not_mem_split s) _, filters_make (not_mem_split s) _, rejoin_rejoin s,
      rejoin_eq_iff, fun d dst => d.append_eq _ _ dst⟩⟩
  case segments =>
    rw [filters_of_make, filterNames_append_flatMap]
    rfl
  case parts => rw [filters, suffix_make hm, filterNames_chain hfs]

namespace Sample

/-- Parts without colons, one of them empty, and parts with colons in all places. -/
theorem make_and_split_ragged :
    (Token.make "foo".toList ["hex".toList, [], "upper".toList]).filters
      = ["hex".toList, "upper".toList] ∧
    (Token.make "a:b::".toList [":c".toList, ":".toList, "d:e:".toList]).name = "a".toList ∧
    (Token.make "a:b::".toList [":c".toList, ":".toList, "d:e:".toList]).filters
      = ["b".toList, "c".toList, "d".toList, "e".toList] ∧
    Token.rejoin "x::hex:".toList = ⟨"x:hex".toList⟩ ∧
    Delimiters.standard.append "x".toList "::hex:".toList (Text.utf8 "> ".toList)
      = .ok () (Text.utf8 "> $\x7bx:hex\x7d".toList) := by
  obtain ⟨hmake, hsplit⟩ := Token.make_and_split
  obtain ⟨-, -, hparts⟩ := hmake "foo".toList ["hex".toList, [], "upper".toList]
  obtain ⟨hname, hfilters, -⟩ := hmake "a:b::".toList [":c".toList, ":".toList, "d:e:".toList]
  obtain ⟨-, -, -, -, happend⟩ := hsplit "x::hex:".toList
  refine ⟨(hparts (by decide) (by decide)).2.trans (by decide), hname.trans (by decide),
    hfilters.trans (by decide), by decide +kernel, ?_⟩
  exact (happend .standard _).trans (congrArg (EStateM.Result.ok ()) (by decide +kernel))

end Sample
end Stencil
