/-
# Canonical tokens

`Token.make` writes a name and filters as one text, and `Token.name` and `Token.suffix` read it
back, as a text is split in one way only (`split_eq_iff`).  When the name holds no colon nothing is
lost (`name_make`, `suffix_make`), and a filter suffix that was made canonical names the filters it
named before (`filterNames_canonical`), so that it is echoed in the same way (`echo_canonical`).

`Token.rejoin` splits token text and joins it again.  It only takes characters out
(`rejoin_sublist`), brings nothing together that holds no colon (`isInfix_of_rejoin`), and takes
nothing out exactly when no filter is empty (`rejoin_eq_iff`).
-/
import Mathlib.Data.List.Flatten
import Stencil.Delimiters

namespace Stencil
namespace Token

/-! ## 1. Filter names -/

/-- Splitting at colons leaves no colon. -/
theorem colon_not_mem_of_mem_splitOn : ∀ {s f : Text}, f ∈ s.splitOn ':' → ':' ∉ f
  | [], f, h => by simp_all [List.splitOn_nil]
  | c :: s, f, h => by
    rw [List.splitOn_cons_eq_if_modifyHead] at h
    split at h
    · rcases List.mem_cons.mp h with rfl | h
      · simp
      · exact colon_not_mem_of_mem_splitOn h
    · next hc =>
      obtain ⟨g, gs, hg⟩ := List.exists_cons_of_ne_nil (List.splitOn_ne_nil ':' s)
      rw [hg, List.modifyHead_cons] at h
      rcases List.mem_cons.mp h with rfl | h
      · have hcolon : ':' ∉ g := colon_not_mem_of_mem_splitOn (hg ▸ List.mem_cons_self)
        have hne : ':' ≠ c := fun he => hc (by simp [← he])
        simp [hne, hcolon]
      · exact colon_not_mem_of_mem_splitOn (hg ▸ List.mem_cons_of_mem _ h)

/-- A filter name holds no colon. -/
theorem colon_not_mem_of_mem_filterNames {s f : Text} (h : f ∈ filterNames s) : ':' ∉ f :=
  colon_not_mem_of_mem_splitOn (List.mem_filter.mp h).1

/-- No filter name is empty. -/
theorem filter_filterNames (s : Text) :
    (filterNames s).filter (fun f => !f.isEmpty) = filterNames s := by
  simp [filterNames]

/-- Texts without colons, joined with colons, are split into the same texts. -/
theorem splitOn_append_flatMap : ∀ {gs : List Text} {g : Text}, ':' ∉ g →
    (∀ f ∈ gs, ':' ∉ f) → (g ++ gs.flatMap (':' :: ·)).splitOn ':' = g :: gs
  | [], g, hg, _ => by simp [List.splitOn_eq_singleton hg]
  | g' :: gs, g, hg, hgs => by
    rw [List.flatMap_cons, List.cons_append, List.splitOn_append_cons_self_of_not_mem hg,
      splitOn_append_flatMap (hgs g' (by simp)) fun f hf => hgs f (List.mem_cons_of_mem _ hf)]

/-- A chain is split into nothing before its first colon and the filters that are not empty. -/
theorem splitOn_chain {fs : List Text} (h : ∀ f ∈ fs, ':' ∉ f) :
    (chain fs).splitOn ':' = [] :: fs.filter fun f => !f.isEmpty :=
  splitOn_append_flatMap (g := []) (by simp) fun f hf => h f (List.mem_filter.mp hf).1

/-- Reading the chain of some filters gives the filters that are not empty. -/
theorem filterNames_chain {fs : List Text} (h : ∀ f ∈ fs, ':' ∉ f) :
    filterNames (chain fs) = fs.filter fun f => !f.isEmpty := by
  unfold filterNames
  rw [splitOn_chain h]
  simp

/-- A canonical suffix names the filters of the suffix it was made from. -/
theorem filterNames_canonical (s : Text) : filterNames (chain (filterNames s)) = filterNames s := by
  rw [filterNames_chain fun f hf => colon_not_mem_of_mem_filterNames hf, filter_filterNames]

/-! ## 2. Reading a made token -/

/-- What follows a name is nothing, or starts with its colon. -/
theorem split_snd_eq (s : Text) : (split s).2 = [] ∨ ∃ r, (split s).2 = ':' :: r := by
  have hhead := List.head?_dropWhile_not (· != ':') s
  rw [show s.dropWhile (· != ':') = (split s).2 from rfl] at hhead
  cases h : (split s).2 with
  | nil => exact .inl rfl
  | cons c r =>
    rw [h] at hhead
    obtain rfl : c = ':' := by simpa using hhead
    exact .inr ⟨r, rfl⟩

/-- **A text is split in one way**: no colon in the name, and one in front of what follows, if
anything does. -/
theorem split_eq_iff {s n r : Text} :
    split s = (n, r) ↔ s = n ++ r ∧ ':' ∉ n ∧ (r = [] ∨ ∃ r', r = ':' :: r') := by
  constructor
  · intro h
    obtain ⟨rfl, rfl⟩ := Prod.mk.inj h
    exact ⟨(split_append s).symm, not_mem_split s, split_snd_eq s⟩
  · rintro ⟨rfl, hn, hr⟩
    have hname : ∀ c ∈ n, (c != ':') = true := fun c hc => bne_iff_ne.mpr fun he => hn (he ▸ hc)
    rw [split, List.takeWhile_append_of_pos hname, List.dropWhile_append_of_pos hname]
    rcases hr with rfl | ⟨r', rfl⟩ <;> simp

/-- A chain is nothing, or starts with its colon. -/
theorem chain_eq_nil_or_cons (fs : List Text) : chain fs = [] ∨ ∃ r, chain fs = ':' :: r := by
  rw [chain]
  cases fs.filter fun f => !f.isEmpty with
  | nil => exact .inl rfl
  | cons g gs => exact .inr ⟨_, List.flatMap_cons⟩

theorem split_append_chain {name : Text} (h : ':' ∉ name) (fs : List Text) :
    split (name ++ chain fs) = (name, chain fs) :=
  split_eq_iff.mpr ⟨rfl, h, chain_eq_nil_or_cons fs⟩

/-- A name without a colon is read back from a token. -/
theorem name_make {name : Text} (h : ':' ∉ name) (fs : List Text) : (make name fs).name = name := by
  simp [Token.name, make, split_append_chain h]

/-- The filters of a token are read back as their chain. -/
theorem suffix_make {name : Text} (h : ':' ∉ name) (fs : List Text) :
    (make name fs).suffix = chain fs := by
  simp [suffix, make, split_append_chain h]

/-- The filters of a token are read back from the suffix that they came from. -/
theorem filters_make {name : Text} (h : ':' ∉ name) (suffix : Text) :
    (make name (filterNames suffix)).filters = filterNames suffix := by
  rw [filters, suffix_make h, filterNames_canonical]

/-! ## 3. Token text split and joined again -/

/-- Token text split and joined again, without its empty filters. -/
def rejoin (s : Text) : Token := make (split s).1 (filterNames (split s).2)

/-- The parts between colons, with a colon before each. -/
theorem flatMap_splitOn : ∀ s : Text, (s.splitOn ':').flatMap (':' :: ·) = ':' :: s
  | [] => by simp [List.splitOn_nil]
  | c :: s => by
    have ih := flatMap_splitOn s
    rw [List.splitOn_cons_eq_if_modifyHead]
    split
    · next hc =>
      obtain rfl := beq_iff_eq.mp hc
      simp [ih]
    · obtain ⟨g, gs, hg⟩ := List.exists_cons_of_ne_nil (List.splitOn_ne_nil ':' s)
      rw [hg] at ih ⊢
      simpa using ih

/-- The filters of a suffix are what stands between the colons after the first. -/
theorem filterNames_cons (r : Text) :
    filterNames (':' :: r) = (r.splitOn ':').filter fun f => !f.isEmpty := by
  simp [filterNames, List.splitOn_cons_eq_if_modifyHead]

/-- Making a suffix canonical only takes characters out. -/
theorem chain_sublist (s : Text) : (chain (filterNames (split s).2)).Sublist (split s).2 := by
  rcases split_snd_eq s with h | ⟨r, h⟩
  · rw [h]
    simp [filterNames, chain, List.splitOn_nil]
  · rw [h, filterNames_cons, chain, List.filter_filter, ← flatMap_splitOn r]
    simp only [Bool.and_self]
    exact List.filter_sublist.flatMap _

/-- **Joining again only takes characters out.** -/
theorem rejoin_sublist (s : Text) : (rejoin s).text.Sublist s := by
  have h : ((split s).1 ++ chain (filterNames (split s).2)).Sublist
      ((split s).1 ++ (split s).2) := (chain_sublist s).append_left _
  rwa [split_append] at h

/-- Joining again is done once. -/
theorem rejoin_rejoin (s : Text) : rejoin (rejoin s).text = rejoin s := by
  have hsplit : split (rejoin s).text = ((split s).1, chain (filterNames (split s).2)) :=
    split_append_chain (not_mem_split s) _
  rw [rejoin, hsplit, filterNames_canonical, ← rejoin]

/-- **Nothing is lost** exactly when no filter is empty. -/
theorem rejoin_eq_iff {s : Text} : rejoin s = ⟨s⟩ ↔ [] ∉ ((split s).2.splitOn ':').tail := by
  have hchain : rejoin s = ⟨s⟩ ↔ chain (filterNames (split s).2) = (split s).2 := by
    have happ : (⟨s⟩ : Token) = ⟨(split s).1 ++ (split s).2⟩ := by rw [split_append]
    rw [happ, rejoin, make, Token.mk.injEq, List.append_cancel_left_eq]
  rw [hchain]
  constructor
  · intro h
    rw [← h, splitOn_chain fun f hf => colon_not_mem_of_mem_filterNames hf]
    simp
  · intro h
    rcases split_snd_eq s with hs | ⟨r, hs⟩
    · rw [hs]
      simp [filterNames, chain, List.splitOn_nil]
    · rw [hs, List.splitOn_cons_eq_if_modifyHead, if_pos (beq_self_eq_true ':')] at h
      have hall : ((r.splitOn ':').filter fun f => !f.isEmpty) = r.splitOn ':' := by
        rw [List.filter_eq_self]
        intro f hf
        have hne : f ≠ [] := fun hnil => h (hnil ▸ hf)
        simpa using hne
      rw [hs, filterNames_cons, hall, chain, hall, flatMap_splitOn]

/-- What holds no colon stands in `a` or in `b` when it stands in `a`, a colon and `b`. -/
theorem isInfix_of_append_colon {w a b : Text} (hw : ':' ∉ w) (h : w <:+: a ++ ':' :: b) :
    w <:+: a ∨ w <:+: b := by
  rcases List.infix_append_iff.mp h with h | h | ⟨x, y, rfl, hx, hy⟩
  · exact .inl h
  · rcases List.infix_cons_iff.mp h with hpre | h
    · cases w with
      | nil => exact .inr List.nil_infix
      | cons c w =>
        obtain ⟨rfl, -⟩ := List.cons_prefix_cons.mp hpre
        exact absurd List.mem_cons_self hw
    · exact .inr h
  · cases y with
    | nil => exact .inl (by simpa using hx.isInfix)
    | cons c y =>
      obtain ⟨rfl, -⟩ := List.cons_prefix_cons.mp hy
      exact absurd (by simp) hw

/-- What holds no colon and stands in a name and a chain stands in the name or in a filter. -/
theorem isInfix_of_append_flatMap {w : Text} (hw : ':' ∉ w) : ∀ {gs : List Text} {g : Text},
    w <:+: g ++ gs.flatMap (':' :: ·) → w <:+: g ∨ ∃ f ∈ gs, w <:+: f
  | [], g, h => .inl (by simpa using h)
  | g' :: gs, g, h => by
    rw [List.flatMap_cons, List.cons_append] at h
    rcases isInfix_of_append_colon hw h with h | h
    · exact .inl h
    · rcases isInfix_of_append_flatMap hw h with h | ⟨f, hf, h⟩
      · exact .inr ⟨g', List.mem_cons_self, h⟩
      · exact .inr ⟨f, List.mem_cons_of_mem _ hf, h⟩

/-- A filter name stands in its suffix. -/
theorem isInfix_of_mem_filterNames {s f : Text} (h : f ∈ filterNames (split s).2) :
    f <:+: (split s).2 := by
  rcases split_snd_eq s with hs | ⟨r, hs⟩
  · rw [hs] at h
    simp [filterNames, List.splitOn_nil] at h
  · rw [hs, filterNames_cons] at h
    have hmem : ':' :: f ∈ (r.splitOn ':').map (':' :: ·) :=
      List.mem_map_of_mem (List.mem_filter.mp h).1
    have hin : ':' :: f <:+: ':' :: r := flatMap_splitOn r ▸ List.infix_of_mem_flatten hmem
    rw [hs]
    exact (List.suffix_cons ':' f).isInfix.trans hin

/-- **Joining again brings nothing together** that holds no colon. -/
theorem isInfix_of_rejoin {w s : Text} (hw : ':' ∉ w) (h : w <:+: (rejoin s).text) : w <:+: s := by
  rw [← split_append s]
  rcases isInfix_of_append_flatMap hw h with h | ⟨f, hf, h⟩
  · exact h.trans (List.prefix_append _ _).isInfix
  · have hfilter := isInfix_of_mem_filterNames (List.mem_filter.mp hf).1
    exact (h.trans hfilter).trans (List.suffix_append _ _).isInfix

end Token

/-- A suffix is echoed in canonical form, whether or not it was canonical. -/
theorem Delimiters.echo_canonical (d : Delimiters) (name s : Text) :
    d.echo name (Token.chain (Token.filterNames s)) = d.echo name s := by
  simp [echo, Token.filterNames_canonical]

end Stencil
