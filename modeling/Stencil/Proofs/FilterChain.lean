/-
# A chain of filters is their composition

A chain of filters runs in two buffers that change places after each filter: the first filter reads
the output, every later one what the filter before it left in a buffer.  Nothing of this shows from
outside, whatever the buffers held before.

* `Registry.Passes`: a value goes through filters in turn.  `Registry.Refuses`: a filter that is not
  registered, or fails.
* `Meaning.filters_eq_ok_iff`, `Meaning.filters_eq_error_iff`: filters in order either pass a value
  on to the end, or the first one that refuses what it is given decides the error.
* `Render.filterRest_stops`, `Render.filterChain_stops`: after that filter none is looked up or run.
* `Render.filterChain_composes`: the whole account of a chain.
-/
import Stencil.Proofs.Rendering

namespace Stencil

/-! ## 1. Filters in turn -/

namespace Registry

variable {reg : Registry} {name : Text} {value : Bytes}

/-- The value goes through the filters in turn and comes out as `result`: each filter is registered,
succeeds on what it is given, and gives the next one what it writes. -/
inductive Passes (reg : Registry) : List Text → Bytes → Bytes → Prop
  | nil {value : Bytes} : Passes reg [] value value
  | cons {name : Text} {names : List Text} {f : Filter} {value result : Bytes}
      (hf : reg.get? name = some f) (hok : (f value).failure = none)
      (hrest : Passes reg names (f value).written result) : Passes reg (name :: names) value result

/-- The filter `name` does not take the value, and the error that it makes of it. -/
inductive Refuses (reg : Registry) (name : Text) (value : Bytes) : RenderError → Prop
  | unregistered (h : reg.get? name = none) :
      Refuses reg name value (.noFilter name (suggestions name reg.keys))
  | failed {f : Filter} {reason : Text} (hf : reg.get? name = some f)
      (hfail : (f value).failure = some reason) : Refuses reg name value (.filter name reason)

/-- A filter that refuses a value does not take it, too. -/
theorem Refuses.failure_ne {e : RenderError} (h : reg.Refuses name value e) {f : Filter}
    (hf : reg.get? name = some f) : (f value).failure ≠ none := by
  cases h with
  | unregistered hnone =>
    rw [hnone] at hf
    contradiction
  | failed hf' hfail =>
    obtain rfl := Option.some.inj (hf.symm.trans hf')
    simp [hfail]

end Registry

namespace Meaning

open Registry (Passes Refuses)

variable {reg : Registry} {names : List Text} {value result : Bytes} {e : Failure}

/-- Filters end well exactly when the value passes them all. -/
theorem filters_eq_ok_iff : filters reg names value = .ok result ↔ reg.Passes names value result := by
  constructor
  · intro h
    induction names generalizing value with
    | nil =>
      obtain rfl := Except.ok.inj h
      exact .nil
    | cons name names ih =>
      rw [filters] at h
      split at h
      · contradiction
      · next f hf =>
        split at h
        · contradiction
        · next hok => exact .cons hf hok (ih h)
  · intro h
    induction h with
    | nil => rfl
    | cons hf hok _ ih =>
      simp only [filters, hf, hok]
      exact ih

/-- **The first filter that refuses what it is given decides the error.** -/
theorem filters_eq_error_iff : filters reg names value = .error e ↔
    ∃ before name after reached r, names = before ++ name :: after ∧
      reg.Passes before value reached ∧ reg.Refuses name reached r ∧ e = .error r := by
  constructor
  · intro h
    induction names generalizing value with
    | nil => contradiction
    | cons name names ih =>
      rw [filters] at h
      split at h
      · next hnone =>
        exact ⟨[], name, names, value, _, rfl, .nil, .unregistered hnone, (Except.error.inj h).symm⟩
      · next f hf =>
        split at h
        · next reason hfail =>
          exact ⟨[], name, names, value, _, rfl, .nil, .failed hf hfail, (Except.error.inj h).symm⟩
        · next hok =>
          obtain ⟨before, name', after, reached, r, rfl, hpass, hrefuse, he⟩ := ih h
          exact ⟨name :: before, name', after, reached, r, rfl, .cons hf hok hpass, hrefuse, he⟩
  · rintro ⟨before, name, after, reached, r, rfl, hpass, hrefuse, rfl⟩
    induction hpass with
    | nil =>
      cases hrefuse with
      | unregistered hnone => simp only [List.nil_append, filters, hnone]
      | failed hf hfail => simp only [List.nil_append, filters, hf, hfail]
    | cons hf hok _ ih =>
      simp only [List.cons_append, filters, hf, hok]
      exact ih hrefuse

end Meaning

namespace Render

variable {reg reg' : Registry} {offset : Nat} {before after after' : List Text} {name : Text}
  {reached : Bytes} {e : RenderError}

/-! ## 2. Where a chain stops -/

/-- Two registries with the same names that agree on some of them. -/
structure AgreeOn (names : List Text) (reg reg' : Registry) : Prop where
  keys : reg'.keys = reg.keys
  get? : ∀ n ∈ names, reg'.get? n = reg.get? n

/-- A filter is looked up by its own name only; when it is missing, the other names are read. -/
theorem filterStep_congr {names : List Text} (h : AgreeOn names reg reg') (hname : name ∈ names)
    (first : Bool) : filterStep reg' offset first name = filterStep reg offset first name := by
  funext w
  simp only [filterStep, h.get? name hname, h.keys]

/-- A filter that refuses its value ends the chain. -/
theorem exists_filterStep_of_refuses {offset : Nat} {first : Bool} {w : Workspace}
    (h : reg.Refuses name (given offset first w) e) :
    ∃ w', filterStep reg offset first name w = .error (.error e) w' := by
  cases h with
  | unregistered hnone => exact ⟨w, filterStep_of_none hnone⟩
  | failed hf hfail => exact ⟨_, filterStep_of_failed hf hfail⟩

/-- A step of a chain goes the same way in two registries that agree on its filter: if the rest of
the chain does so behind a filter that succeeds, the whole chain does. -/
theorem filterStep_then_congr (first : Bool) {names rest rest' : List Text} {w : Workspace}
    (h : AgreeOn names reg reg') (hname : name ∈ names)
    (hrest : ∀ {f : Filter}, reg.get? name = some f → (f (given offset first w)).failure = none →
      filterRest reg' offset rest'
          { w with held := (f (given offset first w)).written, spare := w.held } =
        filterRest reg offset rest
          { w with held := (f (given offset first w)).written, spare := w.held }) :
    (do filterStep reg' offset first name; filterRest reg' offset rest' : Render Unit) w =
      (do filterStep reg offset first name; filterRest reg offset rest : Render Unit) w := by
  rw [filterStep_congr h hname]
  cases hf : reg.get? name with
  | none =>
    have hrefuse : reg.Refuses name (given offset first w) _ := .unregistered hf
    obtain ⟨w', hw⟩ := exists_filterStep_of_refuses hrefuse
    rw [then_of_error hw, then_of_error hw]
  | some f =>
    cases hfail : (f (given offset first w)).failure with
    | some reason =>
      obtain ⟨w', hw⟩ := exists_filterStep_of_refuses (.failed hf hfail)
      rw [then_of_error hw, then_of_error hw]
    | none =>
      have hw := filterStep_of_ok hf hfail
      rw [then_of_ok hw, then_of_ok hw]
      exact hrest hf hfail

/-- **Behind the filter that refuses its value none is looked up or run.**  The names behind it can
be any, and so can the filters of all names but those up to it: the chain ends in the same way and
leaves the same workspace. -/
theorem filterRest_stops (hrefuse : reg.Refuses name reached e) {before : List Text} {w : Workspace}
    (hpass : reg.Passes before w.held reached) (h : AgreeOn (before ++ [name]) reg reg') :
    filterRest reg' offset (before ++ name :: after') w =
      filterRest reg offset (before ++ name :: after) w := by
  induction before generalizing w with
  | nil =>
    cases hpass
    refine filterStep_then_congr false h (by simp) fun hf hok => ?_
    exact absurd hok (hrefuse.failure_ne hf)
  | cons n before ih =>
    cases hpass with
    | cons hf hok hrest =>
      refine filterStep_then_congr false h (by simp) fun hf' _ => ?_
      obtain rfl := Option.some.inj (hf.symm.trans hf')
      exact ih hrest ⟨h.keys, fun m hm => h.get? m (List.mem_cons_of_mem _ hm)⟩

theorem filterChain_stops (hrefuse : reg.Refuses name reached e) {before : List Text}
    {w : Workspace} (hpass : reg.Passes before (w.out.drop offset) reached)
    (h : AgreeOn (before ++ [name]) reg reg') :
    filterChain reg' offset (before ++ name :: after') w =
      filterChain reg offset (before ++ name :: after) w := by
  cases hpass with
  | nil =>
    refine filterStep_then_congr true h (by simp) fun hf hok => ?_
    exact absurd hok (hrefuse.failure_ne hf)
  | cons hf hok hrest =>
    refine filterStep_then_congr true h (by simp) fun hf' _ => ?_
    obtain rfl := Option.some.inj (hf.symm.trans hf')
    exact filterRest_stops hrefuse hrest
      ⟨h.keys, fun m hm => h.get? m (List.mem_cons_of_mem _ hm)⟩

/-! ## 3. The whole chain -/

/-- How a chain ends is how its filters end, and what it leaves of the output. -/
theorem filterChain_cases (reg : Registry) (offset : Nat) (names : List Text) (w : Workspace) :
    (∃ result w', Meaning.filters reg names (w.out.drop offset) = .ok result ∧
        filterChain reg offset names w = .ok () w' ∧ w'.out = w.out.take offset ++ result) ∨
      ∃ failure w', Meaning.filters reg names (w.out.drop offset) = .error failure ∧
        filterChain reg offset names w = .error failure w' ∧ w'.out = w.out := by
  have hlands := filterChain_lands reg offset names w
  generalize filterChain reg offset names w = res at hlands ⊢
  generalize Meaning.filters reg names (w.out.drop offset) = r at hlands ⊢
  cases hlands with
  | ok hout _ => exact .inl ⟨_, _, rfl, rfl, hout⟩
  | error hout _ => exact .inr ⟨_, _, rfl, rfl, hout⟩

/-- **A chain of filters is their composition.**  It runs on the output from an offset on, and the
filters are those that a suffix names, in order and without empty names.

* A chain that ends well leaves the output before the offset, and the rest has passed all filters.
* Where the value passes all filters, the chain ends well and puts the result in its place.
* A chain that fails leaves the output as it was, and its error is that of the first filter that
  refuses what it is given.
* Where there is such a filter, the chain fails with its error, and nothing behind that filter is
  looked up or run: other names behind it and other filters under them change nothing.

What the buffers of the workspace held before makes no difference. -/
theorem filterChain_composes (reg : Registry) (offset : Nat) (suffix : Text) (w : Workspace)
    (hoffset : offset ≤ w.out.length) :
    (∀ w', filterChain reg offset (Token.filterNames suffix) w = .ok () w' →
        w'.out.take offset = w.out.take offset ∧
          reg.Passes (Token.filterNames suffix) (w.out.drop offset) (w'.out.drop offset)) ∧
      (∀ result, reg.Passes (Token.filterNames suffix) (w.out.drop offset) result →
        ∃ w', filterChain reg offset (Token.filterNames suffix) w = .ok () w' ∧
          w'.out = w.out.take offset ++ result) ∧
      (∀ failure w', filterChain reg offset (Token.filterNames suffix) w = .error failure w' →
        w'.out = w.out ∧ ∃ before name after reached e,
          Token.filterNames suffix = before ++ name :: after ∧
            reg.Passes before (w.out.drop offset) reached ∧ reg.Refuses name reached e ∧
            failure = .error e) ∧
      ∀ before name after reached e, Token.filterNames suffix = before ++ name :: after →
        reg.Passes before (w.out.drop offset) reached → reg.Refuses name reached e →
          ∃ w', w'.out = w.out ∧ ∀ reg' after', AgreeOn (before ++ [name]) reg reg' →
            filterChain reg' offset (before ++ name :: after') w = .error (.error e) w' := by
  have hlen : (w.out.take offset).length = offset := List.length_take_of_le hoffset
  have hcases := filterChain_cases reg offset (Token.filterNames suffix) w
  refine ⟨?_, ?_, ?_, ?_⟩
  · intro w' hw
    rcases hcases with ⟨result, w₁, hfilters, hchain, hout⟩ | ⟨failure, w₁, -, hchain, -⟩
    · rw [hw] at hchain
      cases hchain
      rw [hout, List.take_left' hlen, List.drop_left' hlen]
      exact ⟨rfl, Meaning.filters_eq_ok_iff.mp hfilters⟩
    · rw [hw] at hchain
      contradiction
  · intro result hpass
    have hfilters := Meaning.filters_eq_ok_iff.mpr hpass
    rcases hcases with ⟨result', w', hfilters', hchain, hout⟩ | ⟨failure, w', hfilters', -, -⟩
    · obtain rfl := Except.ok.inj (hfilters.symm.trans hfilters')
      exact ⟨w', hchain, hout⟩
    · rw [hfilters] at hfilters'
      contradiction
  · intro failure w' hw
    rcases hcases with ⟨result, w₁, -, hchain, -⟩ | ⟨failure', w₁, hfilters, hchain, hout⟩
    · rw [hw] at hchain
      contradiction
    · rw [hw] at hchain
      cases hchain
      exact ⟨hout, Meaning.filters_eq_error_iff.mp hfilters⟩
  · intro before name after reached e hnames hpass hrefuse
    have hfilters := Meaning.filters_eq_error_iff.mpr
      ⟨before, name, after, reached, e, hnames, hpass, hrefuse, rfl⟩
    rcases hcases with ⟨result, w', hfilters', -, -⟩ | ⟨failure, w', hfilters', hchain, hout⟩
    · rw [hfilters] at hfilters'
      contradiction
    · obtain rfl := Except.error.inj (hfilters.symm.trans hfilters')
      refine ⟨w', hout, fun reg' after' hagree => ?_⟩
      rw [filterChain_stops hrefuse hpass hagree, ← hnames, hchain]

end Render

namespace Sample

/-- A value behind other output, and what earlier tokens left in the buffers. -/
def stale : Workspace := ⟨Text.utf8 "id=é".toList, [1, 2, 3], [4], 0⟩

/-- The built-in filters with another function under one of their names. -/
def lowered : Registry := Registry.builtin.insert "upper".toList Filter.lower

/-- One chain that ends well, and one that stops in front of a filter of another function. -/
theorem filterChain_composes_stale :
    3 ≤ stale.out.length ∧ Token.filterNames "::hex:upper".toList = ["hex".toList, "upper".toList] ∧
      Registry.builtin.Passes (Token.filterNames "::hex:upper".toList) (stale.out.drop 3)
        (Text.utf8 "C3A9".toList) ∧
      (∃ w', Render.filterChain Registry.builtin 3 (Token.filterNames "::hex:upper".toList) stale =
          .ok () w' ∧ w'.out = Text.utf8 "id=C3A9".toList) ∧
      Registry.builtin.Refuses "hax".toList (Text.utf8 "c3a9".toList)
        (.noFilter "hax".toList ["hex".toList]) ∧
      Render.AgreeOn (["hex".toList] ++ ["hax".toList]) Registry.builtin lowered ∧
      ∃ w', w'.out = stale.out ∧
        Render.filterChain Registry.builtin 3 (Token.filterNames ":hex:hax:upper".toList) stale =
          .error (.error (.noFilter "hax".toList ["hex".toList])) w' ∧
        Render.filterChain lowered 3 (["hex".toList] ++ "hax".toList :: ["upper".toList]) stale =
          .error (.error (.noFilter "hax".toList ["hex".toList])) w' := by
  have hoffset : 3 ≤ stale.out.length := by decide +kernel
  have hpass : Registry.builtin.Passes (Token.filterNames "::hex:upper".toList) (stale.out.drop 3)
      (Text.utf8 "C3A9".toList) := Meaning.filters_eq_ok_iff.mp (by decide +kernel)
  have hnone : Registry.builtin.get? "hax".toList = none := rfl
  have hnear : suggestions "hax".toList Registry.builtin.keys = ["hex".toList] := by decide +kernel
  have hrefuse : Registry.builtin.Refuses "hax".toList (Text.utf8 "c3a9".toList)
      (.noFilter "hax".toList ["hex".toList]) := hnear ▸ .unregistered hnone
  have hbefore : Registry.builtin.Passes ["hex".toList] (stale.out.drop 3)
      (Text.utf8 "c3a9".toList) := Meaning.filters_eq_ok_iff.mp (by decide +kernel)
  have hagree : Render.AgreeOn (["hex".toList] ++ ["hax".toList]) Registry.builtin lowered := by
    refine ⟨by decide +kernel, fun n hn => ?_⟩
    rw [lowered, Dict.get?_insert, if_neg]
    rintro rfl
    exact absurd hn (by decide)
  obtain ⟨-, hok, -, -⟩ := Render.filterChain_composes Registry.builtin 3
    "::hex:upper".toList stale hoffset
  obtain ⟨-, -, -, hstop⟩ := Render.filterChain_composes Registry.builtin 3
    ":hex:hax:upper".toList stale hoffset
  obtain ⟨w₁, hchain, hout⟩ := hok _ hpass
  obtain ⟨w₂, hsame, hfail⟩ := hstop ["hex".toList] "hax".toList ["upper".toList] _ _
    (by decide +kernel) hbefore hrefuse
  exact ⟨hoffset, by decide +kernel, hpass, ⟨w₁, hchain, hout⟩, hrefuse, hagree, w₂, hsame,
    hfail Registry.builtin ["upper".toList] ⟨rfl, fun _ _ => rfl⟩, hfail lowered _ hagree⟩

end Sample
end Stencil
