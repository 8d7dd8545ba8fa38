/-
# Which names are suggested

The names within the reach of a name are ordered by distance, and at one distance by their bytes.
No two different names stand level, so there is one such order for given names, however they were
listed and however they are sorted.  Suggestions are its first three names.

A token that names a filter which is not registered is answered with registered ones.  This file
follows that error from the chain of filters out of every render call.

* `Ranks`: the names within reach in order, each as often as it is available.  `Ranks.unique`: there
  is one such list.  `Ranks.suggestions_eq`: suggestions are its first three names.
* `Meaning.Suggests`: outcomes that suggest as they should.  `Meaning.template_suggests`,
  `Meaning.inline_suggests`: those of rendering do.
* `Engine.Raises`: a render call of any kind fails with an error.
* `suggestions_select`: what is suggested, for names in general and for filters.
-/
import Stencil.Proofs.ByName
import Stencil.Proofs.Delivery
import Stencil.Proofs.FilterChain
import Stencil.Proofs.Suggestions

namespace Stencil

/-! ## 1. The first names in order -/

/-- The available names within the reach of `name`, each as often as it is available. -/
def namesWithin (name : Text) (available : List Text) : List Text :=
  available.filter fun a => name.editDistance a ≤ suggestionReach name

/-- **The names within the reach of `name` in order**, each as often as it is available: nearer names
first, and names at one distance in the order of bytes. -/
structure Ranks (name : Text) (available ranked : List Text) : Prop where
  perm : ranked.Perm (namesWithin name available)
  ordered : ranked.Pairwise (NoLater name)

instance (name y x : Text) : Decidable (NoLater name y x) := inferInstanceAs (Decidable (_ ∨ _))

section Order

variable {name x y : Text} {available available' ranked ranked' : List Text}

/-- No two different names stand level. -/
theorem NoLater.antisymm (hxy : NoLater name x y) (hyx : NoLater name y x) : x = y := by
  rcases hxy with hxy | ⟨hdist, hxy⟩
  · rcases hyx with hyx | ⟨hdist, -⟩
    · exact absurd hyx (Nat.lt_asymm hxy)
    · exact absurd hdist (Nat.ne_of_gt hxy)
  · rcases hyx with hyx | ⟨-, hyx⟩
    · exact absurd hdist (Nat.ne_of_gt hyx)
    · rw [Text.utf8_lt_utf8_iff] at hxy hyx
      exact List.le_antisymm (List.not_lt.mp hxy) (List.not_lt.mp hyx)

/-- **There is one order** of given names. -/
theorem Ranks.unique (h : Ranks name available ranked) (h' : Ranks name available ranked') :
    ranked = ranked' :=
  List.Perm.eq_of_pairwise (fun _ _ _ _ => NoLater.antisymm) h.ordered h'.ordered
    (h.perm.trans h'.perm.symm)

/-- The order does not depend on how the names are listed. -/
theorem Ranks.congr (h : Ranks name available ranked) (hperm : available.Perm available') :
    Ranks name available' ranked :=
  ⟨h.perm.trans (hperm.filter _), h.ordered⟩

/-- Forgetting the distances of the candidates leaves the names within reach. -/
theorem map_snd_candidates (name : Text) (available : List Text) :
    (candidates name available).map Prod.snd = namesWithin name available := by
  rw [candidates, List.filter_map, List.map_map]
  exact List.map_id _

/-- The ranking puts the names in order. -/
theorem ranks_ranking (name : Text) (available : List Text) :
    Ranks name available ((ranking name available).map Prod.snd) := by
  constructor
  · have hperm : (ranking name available).Perm (candidates name available) :=
      List.mergeSort_perm _ _
    rw [← map_snd_candidates]
    exact hperm.map Prod.snd
  · refine List.pairwise_map.mpr ((pairwise_ranking name available).imp_of_mem ?_)
    rintro ⟨n, x⟩ ⟨m, y⟩ hx hy hle
    obtain ⟨rfl, -⟩ := mem_ranking_iff.mp hx
    obtain ⟨rfl, -⟩ := mem_ranking_iff.mp hy
    exact noLater_of_nearerOrEqual hle

/-- **Suggestions are the first three names in order.** -/
theorem Ranks.suggestions_eq (h : Ranks name available ranked) :
    suggestions name available = ranked.take 3 := by
  rw [h.unique (ranks_ranking name available), suggestions_eq_take, List.map_take]

/-- Suggestions do not depend on how the names are listed. -/
theorem suggestions_congr (hperm : available.Perm available') :
    suggestions name available = suggestions name available' := by
  have hranks := ranks_ranking name available
  rw [hranks.suggestions_eq, (hranks.congr hperm).suggestions_eq]

/-- A name that is available once is suggested once. -/
theorem nodup_suggestions (h : available.Nodup) : (suggestions name available).Nodup := by
  have hranks := ranks_ranking name available
  rw [hranks.suggestions_eq]
  exact (hranks.perm.nodup_iff.mpr (h.filter _)).sublist (List.take_sublist 3 _)

/-- What is left over stands behind what is suggested. -/
theorem exists_omitted (name : Text) (available : List Text) : ∃ omitted,
    (suggestions name available ++ omitted).Perm (namesWithin name available) ∧
      ∀ y ∈ suggestions name available, ∀ x ∈ omitted, NoLater name y x := by
  have hranks := ranks_ranking name available
  have hordered := hranks.ordered
  rw [← List.take_append_drop 3 (List.map _ _), ← hranks.suggestions_eq,
    List.pairwise_append] at hordered
  refine ⟨_, ?_, hordered.2.2⟩
  rw [hranks.suggestions_eq, List.take_append_drop]
  exact hranks.perm

end Order

/-! ## 2. Suggestions for a missing filter -/

namespace Meaning

/-- **An outcome that suggests as it should**: when it is that a filter is missing, then this filter
is not registered, and the suggestions for it are made from the names of those that are. -/
def Suggests (reg : Registry) (r : Outcome) : Prop :=
  ∀ name out, r = .error (.error (.noFilter name out)) →
    reg.get? name = none ∧ out = suggestions name reg.keys

variable {reg : Registry}

theorem kept_suggests (reg : Registry) : Kept (Always (Suggests reg)) := by
  refine kept_always (fun _ _ _ h => nomatch h) (fun _ _ _ h => nomatch h)
    (fun _ _ _ h => nomatch h) fun {a r} _ hr => ?_
  cases r with
  | error e => exact hr
  | ok b => exact fun _ _ h => nomatch h

/-- A chain of filters suggests for the first one that is missing. -/
theorem filters_suggests (reg : Registry) (names : List Text) (b : Bytes) :
    Suggests reg (filters reg names b) := by
  intro name out h
  obtain ⟨_, _, _, _, _, -, -, hrefuses, hr⟩ := filters_eq_error_iff.mp h
  obtain rfl := Failure.error.inj hr
  cases hrefuses with
  | unregistered hnone => exact ⟨hnone, rfl⟩

variable {E : Engine} {vs : Bindings}

/-- No value fails for a filter. -/
theorem value_suggests (reg : Registry) (name : Text) (v : Value) :
    Always (Suggests reg) (value name v) := by
  intro before _ _ h
  rw [value] at h
  split at h <;> cases h

/-- A leaf suggests filters of its engine, if the template does that is bound to its macro. -/
theorem leafKeeps_suggests (k : Token) : LeafKeeps (Always (Suggests E.filters)) E vs k := by
  intro nested hnested before
  cases hskip : E.skip.contains k.name with
  | true =>
    rw [leaf_of_skipped hskip]
    exact fun _ _ h => by contradiction
  | false =>
    have hbinding : Suggests E.filters (binding E vs nested k.name before) :=
      binding_of_kept (kept_suggests E.filters) (fun _ _ _ h => by cases h)
        (fun v _ => value_suggests E.filters k.name v) (fun u hu => hnested u hskip hu) before
    rw [leaf_of_not_skipped hskip]
    cases hb : binding E vs nested k.name before with
    | error e =>
      rw [hb] at hbinding
      exact hbinding
    | ok b => exact filters_suggests E.filters _ b

theorem template_suggests (E : Engine) (vs : Bindings) (t : Template) :
    Always (Suggests E.filters) (template E vs t) :=
  template_of_met (kept_suggests E.filters) fun k _ => leafKeeps_suggests k

theorem inline_suggests (E : Engine) (vs : Bindings) (s : Text) :
    Always (Suggests E.filters) (inline E vs s) :=
  inline_of_met (kept_suggests E.filters) fun k _ => leafKeeps_suggests k

theorem onto_eq_error_iff {out : Bytes} {r : Outcome} {e : Failure} :
    (onto out r).1 = .error e ↔ r = .error e := by
  cases r <;> simp [onto]

end Meaning

/-! ## 3. Render calls of all kinds -/

namespace Engine

/-- **A render call fails with an error**: one that appends to bytes, one that gives a text, or a call
on a printer, whatever was done with the printer before. -/
inductive Raises (E : Engine) (e : RenderError) : Prop
  | render {out : Bytes} {t : Template} {vs : Bindings}
      (h : (E.render out t vs).1 = .error (.error e)) : Raises E e
  | replace {out : Bytes} {s : Text} {vs : Bindings}
      (h : (E.replace out s vs).1 = .error (.error e)) : Raises E e
  | renderText {t : Template} {vs : Bindings} (h : E.renderText t vs = .error (.error e)) : Raises E e
  | replaceText {s : Text} {vs : Bindings} (h : E.replaceText s vs = .error (.error e)) : Raises E e
  | printer {σ : Type} {p : Printer} {s : σ} {c : Printer.Call σ} (hp : Printer.Reachable E p)
      (h : (p.run s c).1.result = .error (.error e)) : Raises E e

/-- Where reading the output as text fails, rendering failed, or the output is not UTF-8. -/
theorem of_decoded_error {r : Outcome} {e : Failure} (h : decoded (Meaning.onto [] r) = .error e) :
    r = .error e ∨ e = .error .notUtf8 := by
  cases r with
  | error e' => exact .inl (congrArg _ (Except.error.inj h))
  | ok b =>
    rw [Meaning.onto, decoded] at h
    split at h
    · contradiction
    · exact .inr (Except.error.inj h).symm

end Engine

namespace Printer

variable {σ : Type}

/-- A delivery fails as rendering does, or with its sink. -/
theorem of_delivered_error {sink : Sink σ} {s : σ} {r : Outcome} {e : Failure}
    (h : (delivered sink s r).result = .error e) :
    r = .error e ∨ ∃ reason, e = .error (.sink reason) := by
  cases r with
  | error e' => exact .inl (congrArg _ (Except.error.inj h))
  | ok b =>
    rw [delivered] at h
    split at h
    · next reason _ _ _ => exact .inr ⟨reason, (Except.error.inj h).symm⟩
    · contradiction

/-- What a call on a printer suggests, rendering suggested. -/
theorem suggests_of_run {E : Engine} {p : Printer} (hp : Reachable E p) {s : σ} {c : Call σ}
    {name : Text} {out : List Text} (h : (p.run s c).1.result = .error (.error (.noFilter name out))) :
    E.filters.get? name = none ∧ out = suggestions name E.filters.keys := by
  have hdelivered {sink : Sink σ} {r : Outcome} (hr : Meaning.Suggests E.filters r)
      (h : (delivered sink s r).result = .error (.error (.noFilter name out))) :
      E.filters.get? name = none ∧ out = suggestions name E.filters.keys := by
    rcases of_delivered_error h with hfails | ⟨reason, hsink⟩
    · exact hr name out hfails
    · cases hsink
  rw [(hp.idle.run s c).1] at h
  cases c with
  | sprintf text vs =>
    have hinline := Meaning.inline_suggests E vs text []
    rw [Call.meaning] at h
    cases hr : Meaning.inline E vs text [] with
    | error e =>
      rw [hr] at h
      exact hinline name out (hr.trans (congrArg _ (Except.error.inj h)))
    | ok b =>
      rw [hr] at h
      contradiction
  | fprintf sink text vs => exact hdelivered (Meaning.inline_suggests E vs text []) h
  | execute sink t vs => exact hdelivered (Meaning.template_suggests E vs t []) h

end Printer

/-- **Every render call suggests as it should.** -/
theorem Engine.Raises.suggests {E : Engine} {name : Text} {out : List Text}
    (h : E.Raises (.noFilter name out)) :
    E.filters.get? name = none ∧ out = suggestions name E.filters.keys := by
  cases h with
  | render h =>
    rw [render_eq, Meaning.onto_eq_error_iff] at h
    exact Meaning.template_suggests E _ _ _ name out h
  | replace h =>
    rw [replace_eq, Meaning.onto_eq_error_iff] at h
    exact Meaning.inline_suggests E _ _ _ name out h
  | renderText h =>
    rw [Engine.renderText, render_eq] at h
    rcases of_decoded_error h with h | h
    · exact Meaning.template_suggests E _ _ _ name out h
    · nomatch h
  | replaceText h =>
    rw [Engine.replaceText, replace_eq] at h
    rcases of_decoded_error h with h | h
    · exact Meaning.inline_suggests E _ _ _ name out h
    · nomatch h
  | printer hp h => exact Printer.suggests_of_run hp h

/-! ## 4. What is suggested -/

/-- **Suggestions are the first names in order.**  For available names in any order there is one list
of those within the reach of `name`, each as often as it is available, nearer ones first and those at
one distance in the order of bytes; suggestions are its first three names.  So they do not depend on
the order of the available names, and what is left over stands before none of them.  When a render
call of any kind fails because the filter `name` is missing, its suggestions are registered filters,
each of them once and all different from `name`. -/
theorem suggestions_select (name : Text) :
    (∀ available, ∃ ranked, Ranks name available ranked ∧
      (∀ other, Ranks name available other → other = ranked) ∧
        suggestions name available = ranked.take 3) ∧
      (∀ available available' : List Text, available.Perm available' →
        suggestions name available = suggestions name available') ∧
      (∀ available, ∃ omitted,
        (suggestions name available ++ omitted).Perm (namesWithin name available) ∧
          ∀ y ∈ suggestions name available, ∀ x ∈ omitted, NoLater name y x) ∧
      ∀ (E : Engine) (out : List Text), E.Raises (.noFilter name out) →
        out.Nodup ∧ ∀ x ∈ out, E.filters.contains x = true ∧ x ≠ name := by
  refine ⟨fun available => ?_, fun _ _ => suggestions_congr, exists_omitted name, ?_⟩
  · have hranks := ranks_ranking name available
    exact ⟨_, hranks, fun other hother => hother.unique hranks, hranks.suggestions_eq⟩
  · intro E out h
    obtain ⟨hmissing, rfl⟩ := h.suggests
    refine ⟨nodup_suggestions E.filters.nodup_keys, fun x hx => ?_⟩
    have hkey : x ∈ E.filters.keys := (suggestsWithin_suggestionReach name _).offered x hx
    obtain ⟨f, hf⟩ := Dict.mem_keys_iff.mp hkey
    refine ⟨by rw [Dict.contains, hf]; rfl, ?_⟩
    rintro rfl
    rw [hmissing] at hf
    nomatch hf

namespace Sample

/-- A template in which the filter `lopper` is missing, to be bound. -/
def lopped : Template := ⟨[⟨[], ⟨"name:hex:lopper".toList⟩⟩], [], .standard⟩

/-- Four names at the same distance, one of them twice, and a missing filter in a bound template. -/
theorem suggestions_select_lopper :
    suggestions "hexs".toList ["hexx".toList, "heks".toList, "hax".toList, "hex".toList, "heks".toList]
        = ["heks".toList, "heks".toList, "hex".toList] ∧
      suggestions "hexs".toList
          ["hex".toList, "heks".toList, "heks".toList, "hexx".toList, "hax".toList]
        = ["heks".toList, "heks".toList, "hex".toList] ∧
      engine.Raises (.noFilter "lopper".toList ["lower".toList, "upper".toList]) ∧
      engine.filters.contains "lower".toList = true ∧ "lower".toList ≠ "lopper".toList := by
  have hranks : Ranks "hexs".toList
      ["hexx".toList, "heks".toList, "hax".toList, "hex".toList, "heks".toList]
      ["heks".toList, "heks".toList, "hex".toList, "hexx".toList, "hax".toList] :=
    ⟨by decide +kernel, by decide +kernel⟩
  have hsuggested := hranks.suggestions_eq
  have hperm : ["hexx".toList, "heks".toList, "hax".toList, "hex".toList, "heks".toList].Perm
      ["hex".toList, "heks".toList, "heks".toList, "hexx".toList, "hax".toList] := by decide +kernel
  have hfails : (engine.render [0x2D] ⟨[⟨[], ⟨"lopped".toList⟩⟩], [], .standard⟩
      (("lopped".toList, .template lopped) :: bindings)).1
        = .error (.error (.noFilter "lopper".toList ["lower".toList, "upper".toList])) := by
    have hranks : Ranks "lopper".toList engine.filters.keys ["lower".toList, "upper".toList] :=
      ⟨by decide +kernel, by decide +kernel⟩
    have hsuggested : _ = ["lower".toList, "upper".toList] := hranks.suggestions_eq
    rw [Engine.render_eq, Meaning.onto_eq_error_iff, ← hsuggested]
    rfl
  obtain ⟨-, horder, -, -⟩ := suggestions_select "hexs".toList
  obtain ⟨-, -, -, hfilters⟩ := suggestions_select "lopper".toList
  have hlower := (hfilters engine _ (.render hfails)).2 "lower".toList (by decide)
  exact ⟨hsuggested, (horder _ _ hperm).symm.trans hsuggested, .render hfails, hlower⟩

end Sample
end Stencil
