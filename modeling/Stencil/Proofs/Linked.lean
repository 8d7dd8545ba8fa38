/-
# Linked engines

Building an engine compiles the text of each expansion once and then links the templates
(`Linking.linkAll`): in the linked body of an expansion a token carries a body of its own.  This
file shows that the linked bodies are the right ones.

* A token carries a body exactly when its macro is an expansion, and then the body of that
  expansion (`Body.Linked`, `Engine.linked_of_build`).
* The template behind a linked body is what its text was compiled to, with aliases but without
  expansions (`Engine.expansion?_of_build`).

Linking visits names depth first with a set of finished bodies that only grows.  The invariant
`Linking.Sound` says that every finished body is the linked form of its template, with respect
to the finished bodies; `Linking.Progress` is what one visit keeps, and the names on the open path
stay unfinished.  The counter `room` of a visit never runs out, because the open path has no
name twice (`Linking.Room`).
-/
import Mathlib.Data.List.Perm.Subperm
import Stencil.Config.Basic

namespace Stencil

/-! ## 1. Linked bodies -/

/-- A token with a body carries what `bodies` has for its macro, and a token without one has a
macro that is `plain`. -/
def Body.LinkedIn (plain : Text → Prop) (bodies : Dict Body) : Body → Prop
  | .done _ => True
  | .token _ t rest => plain t.name ∧ rest.LinkedIn plain bodies
  | .expand _ t b rest => bodies.get? t.name = some b ∧ rest.LinkedIn plain bodies

/-- Every token of the body carries what `bodies` has for its macro: a body, or none. -/
abbrev Body.Linked (bodies : Dict Body) : Body → Prop :=
  Body.LinkedIn (fun name => bodies.get? name = none) bodies

/-- Weaker demands leave a linked body linked. -/
theorem Body.LinkedIn.mono {plain plain' : Text → Prop} {bodies bodies' : Dict Body}
    (hp : ∀ ⦃name : Text⦄, plain name → plain' name)
    (hb : ∀ ⦃name : Text⦄ ⦃b : Body⦄, bodies.get? name = some b → bodies'.get? name = some b) :
    ∀ {b : Body}, b.LinkedIn plain bodies → b.LinkedIn plain' bodies'
  | .done _, _ => trivial
  | .token .., ⟨ht, hrest⟩ => ⟨hp ht, hrest.mono hp hb⟩
  | .expand .., ⟨ht, hrest⟩ => ⟨hb ht, hrest.mono hp hb⟩

/-- Every body of the engine is linked to the bodies of the engine. -/
def Engine.Linked (E : Engine) : Prop :=
  ∀ ⦃name : Text⦄ ⦃b : Body⦄, E.bodies.get? name = some b → b.Linked E.bodies

/-- The engines that a caller can get: built from settings, or from a configuration. -/
inductive Engine.Built (E : Engine) : Prop
  | settings {s : Settings} (h : Engine.build s = .ok E)
  | config {c : Config} {filters : Registry} (h : c.build filters = .ok E)

/-- A configuration is built through the settings it stands for. -/
theorem Config.exists_settings {c : Config} {filters : Registry} {E : Engine}
    (h : c.build filters = .ok E) : ∃ s, c.settings filters = .ok s ∧ Engine.build s = .ok E := by
  unfold Config.build at h
  split at h
  · exact absurd h (by simp)
  · next s hs => exact ⟨s, hs, h⟩

theorem Engine.Built.exists_settings {E : Engine} (h : E.Built) :
    ∃ s, Engine.build s = .ok E := by
  cases h with
  | settings h => exact ⟨_, h⟩
  | config h =>
    obtain ⟨s, -, hs⟩ := Config.exists_settings h
    exact ⟨s, hs⟩

namespace Linking

variable {defs : Dict Template} {done done' done'' : Dict Body} {path : List Text}

/-! ## 2. What a visit keeps -/

/-- A body while linking goes on: a token without a body is no expansion at all, and a token
with a body has the finished one. -/
abbrev LinkedTo (defs : Dict Template) (done : Dict Body) : Body → Prop :=
  Body.LinkedIn (fun name => defs.get? name = none) done

/-- Every finished body is the linked form of the template of its name. -/
def Sound (defs : Dict Template) (done : Dict Body) : Prop :=
  ∀ ⦃name : Text⦄ ⦃b : Body⦄, done.get? name = some b →
    ∃ t, defs.get? name = some t ∧ b.chunks = t.chunks ∧ b.tail = t.tail ∧ LinkedTo defs done b

/-- **What linking keeps on its way**: the finished bodies stay sound, none is lost or replaced,
and the names on the open path are as finished as they were. -/
structure Progress (defs : Dict Template) (path : List Text) (done done' : Dict Body) : Prop where
  sound : Sound defs done'
  keeps : ∀ ⦃name : Text⦄ ⦃b : Body⦄, done.get? name = some b → done'.get? name = some b
  frame : ∀ name ∈ path, done'.get? name = done.get? name

/-- What visiting a name comes to. -/
structure Visited (defs : Dict Template) (path : List Text) (name : Text)
    (done : Dict Body) (found : Option Body) (done' : Dict Body) : Prop where
  progress : Progress defs path done done'
  found_eq : done'.get? name = found
  none_of_none : found = none → defs.get? name = none

theorem Progress.refl (h : Sound defs done) : Progress defs path done done :=
  ⟨h, fun _ _ hb => hb, fun _ _ => rfl⟩

theorem Progress.trans (h : Progress defs path done done') (h' : Progress defs path done' done'') :
    Progress defs path done done'' :=
  ⟨h'.sound, fun _ _ hb => h'.keeps (h.keeps hb),
    fun name hn => (h'.frame name hn).trans (h.frame name hn)⟩

/-- Finishing a name that was open: its body is linked and no other name is touched. -/
theorem Progress.insert {name : Text} {t : Template} {b : Body}
    (h : Progress defs (name :: path) done done') (hname : done.get? name = none)
    (hpath : name ∉ path) (ht : defs.get? name = some t) (hchunks : b.chunks = t.chunks)
    (htail : b.tail = t.tail) (hb : LinkedTo defs done' b) :
    Progress defs path done (done'.insert name b) := by
  have hfresh : done'.get? name = none := (h.frame name (by simp)).trans hname
  have hkeeps : ∀ ⦃n : Text⦄ ⦃b' : Body⦄, done'.get? n = some b' →
      (done'.insert name b).get? n = some b' := by
    intro n b' hn
    have hne : name ≠ n := fun he => by simp [← he, hfresh] at hn
    simp [hne, hn]
  refine ⟨?_, fun _ _ hn => hkeeps (h.keeps hn), ?_⟩
  · intro n b' hn
    rw [Dict.get?_insert] at hn
    split at hn
    · next he =>
      obtain rfl := Option.some.inj hn
      exact ⟨t, he ▸ ht, hchunks, htail, hb.mono (fun _ h => h) hkeeps⟩
    · obtain ⟨t', ht', hc, htl, hl⟩ := h.sound hn
      exact ⟨t', ht', hc, htl, hl.mono (fun _ h => h) hkeeps⟩
  · intro n hn
    have hne : name ≠ n := fun he => hpath (he ▸ hn)
    rw [Dict.get?_insert, if_neg hne]
    exact h.frame n (List.mem_cons_of_mem _ hn)

/-! ## 3. Linking the chunks of one template -/

/-- Linking chunks with a visit that works gives a linked body of these chunks. -/
theorem linkChunks_spec
    {v : Text → Dict Body → Except (List Text) (Option Body × Dict Body)} {tail : Text}
    (hv : ∀ {name done found done'}, v name done = .ok (found, done') → Sound defs done →
      Visited defs path name done found done') :
    ∀ {cs : List Chunk} {done : Dict Body} {b : Body} {done' : Dict Body},
      linkChunks v tail cs done = .ok (b, done') → Sound defs done →
        b.chunks = cs ∧ b.tail = tail ∧ LinkedTo defs done' b ∧ Progress defs path done done'
  | [], done, b, done', h, hs => by
    simp only [linkChunks, Except.ok.injEq, Prod.mk.injEq] at h
    obtain ⟨rfl, rfl⟩ := h
    exact ⟨rfl, rfl, trivial, .refl hs⟩
  | c :: cs, done, b, done', h, hs => by
    simp only [linkChunks] at h
    split at h
    · exact absurd h (by simp)
    · next found done₁ hvis =>
      have hvisited := hv hvis hs
      split at h
      · exact absurd h (by simp)
      · next rest done₂ hrest =>
        obtain ⟨hc, ht, hl, hp⟩ := linkChunks_spec hv hrest hvisited.progress.sound
        have hprog := hvisited.progress.trans hp
        split at h
        · -- the macro is no expansion
          simp only [Except.ok.injEq, Prod.mk.injEq] at h
          obtain ⟨rfl, rfl⟩ := h
          exact ⟨by simp [Body.chunks, hc], ht, ⟨hvisited.none_of_none rfl, hl⟩, hprog⟩
        · -- the macro is an expansion, finished by now
          next body =>
          simp only [Except.ok.injEq, Prod.mk.injEq] at h
          obtain ⟨rfl, rfl⟩ := h
          exact ⟨by simp [Body.chunks, hc], ht, ⟨hp.keeps hvisited.found_eq, hl⟩, hprog⟩

/-! ## 4. Visiting names -/

/-- There is room for all expansions that are not on the open path, and none is there twice. -/
structure Room (defs : Dict Template) (room : Nat) (path : List Text) : Prop where
  nodup : path.Nodup
  subset : path ⊆ defs.keys
  size_le : defs.size ≤ room + path.length

/-- With room, an expansion off the path can be opened. -/
theorem Room.open_of_get? {room : Nat} {name : Text} {t : Template} (h : Room defs room path)
    (hname : name ∉ path) (ht : defs.get? name = some t) :
    ∃ n, room = n + 1 ∧ Room defs n (name :: path) := by
  have hnodup : (name :: path).Nodup := List.nodup_cons.mpr ⟨hname, h.nodup⟩
  have hsubset : name :: path ⊆ defs.keys :=
    List.cons_subset.mpr ⟨Dict.mem_keys_iff.mpr ⟨t, ht⟩, h.subset⟩
  have hle : path.length + 1 ≤ defs.size := by
    have hlen := (List.subperm_of_subset hnodup hsubset).length_le
    simpa [Dict.keys, Dict.size] using hlen
  have hroom := h.size_le
  obtain ⟨n, rfl⟩ : ∃ n, room = n + 1 := ⟨room - 1, by omega⟩
  exact ⟨n, rfl, hnodup, hsubset, by simp only [List.length_cons]; omega⟩

/-- **A visit finishes its name soundly**, or finds that it is no expansion. -/
theorem visit_spec {room : Nat} {path : List Text} {name : Text} {done done' : Dict Body}
    {found : Option Body} (h : visit defs room path name done = .ok (found, done'))
    (hroom : Room defs room path) (hs : Sound defs done) :
    Visited defs path name done found done' := by
  unfold visit at h
  split at h
  · -- the name is finished
    next b hb =>
    simp only [Except.ok.injEq, Prod.mk.injEq] at h
    obtain ⟨rfl, rfl⟩ := h
    exact ⟨.refl hs, hb, by simp⟩
  · next hb =>
    split at h
    · exact absurd h (by simp)
    · next hpath =>
      cases ht : defs.get? name with
      | none =>
        simp only [ht, Except.ok.injEq, Prod.mk.injEq] at h
        obtain ⟨rfl, rfl⟩ := h
        exact ⟨.refl hs, hb, fun _ => ht⟩
      | some t =>
        obtain ⟨n, rfl, hroom'⟩ := hroom.open_of_get? hpath ht
        simp only [ht] at h
        split at h
        · exact absurd h (by simp)
        · next body done₁ hlink =>
          simp only [Except.ok.injEq, Prod.mk.injEq] at h
          obtain ⟨rfl, rfl⟩ := h
          obtain ⟨hc, htl, hl, hp⟩ :=
            linkChunks_spec (fun hvis hsound => visit_spec hvis hroom' hsound) hlink hs
          exact ⟨hp.insert hb hpath ht hc htl hl, by simp, by simp⟩
termination_by room

/-- Visiting names in turn finishes each of them that is an expansion. -/
theorem visitAll_spec : ∀ {names : List Text} {done done' : Dict Body},
    visitAll defs names done = .ok done' → Sound defs done →
      Progress defs [] done done' ∧
        ∀ name ∈ names, done'.get? name = none → defs.get? name = none
  | [], done, done', h, hs => by
    obtain rfl := Except.ok.inj h
    exact ⟨.refl hs, by simp⟩
  | name :: names, done, done', h, hs => by
    simp only [visitAll] at h
    split at h
    · exact absurd h (by simp)
    · next found done₁ hvis =>
      have hroom : Room defs defs.size [] := ⟨.nil, by simp, by simp⟩
      have hvisited := visit_spec hvis hroom hs
      obtain ⟨hp, hnames⟩ := visitAll_spec h hvisited.progress.sound
      refine ⟨hvisited.progress.trans hp, fun n hn hnone => ?_⟩
      rcases List.mem_cons.mp hn with rfl | hn
      · cases hfound : found with
        | none => exact hvisited.none_of_none hfound
        | some b =>
          have hsome := hp.keeps (hvisited.found_eq.trans hfound)
          exact absurd (hnone.symm.trans hsome) (by simp)
      · exact hnames n hn hnone

/-- **Linking gives each expansion one linked body, made of its own chunks.** -/
theorem linkAll_spec {bodies : Dict Body} (h : linkAll defs = .ok bodies) :
    (∀ ⦃name b⦄, bodies.get? name = some b → b.Linked bodies) ∧
      ∀ name, (bodies.get? name).map (fun b => (b.chunks, b.tail))
        = (defs.get? name).map fun t => (t.chunks, t.tail) := by
  obtain ⟨hp, hall⟩ := visitAll_spec h (fun name b hb => by simp at hb)
  have hdefs : ∀ ⦃name⦄, defs.get? name = none → bodies.get? name = none := by
    intro name hnone
    cases hb : bodies.get? name with
    | none => rfl
    | some b =>
      obtain ⟨t, ht, -⟩ := hp.sound hb
      exact absurd (hnone.symm.trans ht) (by simp)
  refine ⟨fun name b hb => ?_, fun name => ?_⟩
  · obtain ⟨-, -, -, -, hl⟩ := hp.sound hb
    exact hl.mono hdefs fun _ _ h => h
  · cases hb : bodies.get? name with
    | some b =>
      obtain ⟨t, ht, hc, htl, -⟩ := hp.sound hb
      simp [ht, hc, htl]
    | none =>
      cases ht : defs.get? name with
      | none => rfl
      | some t =>
        have hmem : name ∈ defs.keys := Dict.mem_keys_iff.mpr ⟨t, ht⟩
        exact absurd ((hall name hmem hb).symm.trans ht) (by simp)

end Linking

/-! ## 5. Building an engine -/

namespace Engine

/-- Compiling texts in turn binds each name to its compiled text, and touches no other name. -/
theorem compileAll_spec {E : Engine} : ∀ {es : List (Text × Text)} {done defs : Dict Template},
    es.Pairwise (fun a b => a.1 < b.1) → E.compileAll es done = .ok defs →
      (∀ name text, (name, text) ∈ es → ∃ t, E.compile text = .ok t ∧ defs.get? name = some t) ∧
        ∀ name, (∀ text, (name, text) ∉ es) → defs.get? name = done.get? name
  | [], done, defs, _, h => by
    obtain rfl := Except.ok.inj h
    simp
  | (key, source) :: es, done, defs, hasc, h => by
    obtain ⟨hhead, htail⟩ := List.pairwise_cons.mp hasc
    simp only [compileAll] at h
    split at h
    · exact absurd h (by simp)
    · next t ht =>
      obtain ⟨hin, hout⟩ := compileAll_spec htail h
      refine ⟨fun name text hmem => ?_, fun name hnot => ?_⟩
      · rcases List.mem_cons.mp hmem with he | hmem
        · obtain ⟨rfl, rfl⟩ := Prod.mk.inj he
          -- the key does not come again, so its template is not replaced
          have hlast : ∀ text, (name, text) ∉ es := fun text hm =>
            List.lt_irrefl name (hhead (name, text) hm)
          exact ⟨t, ht, by rw [hout name hlast]; simp⟩
        · exact hin name text hmem
      · have hne : key ≠ name := fun he => hnot source (by simp [he])
        rw [hout name fun text hm => hnot text (List.mem_cons_of_mem _ hm)]
        simp [hne]

variable {s : Settings} {E : Engine}

/-- A built engine is the engine before its expansions with the linked bodies of the compiled
texts. -/
theorem exists_of_build (h : build s = .ok E) : ∃ defs,
    (bare s).compileAll s.expansions.toList .empty = .ok defs ∧
      Linking.linkAll defs = .ok E.bodies ∧ E = { bare s with bodies := E.bodies } := by
  unfold build at h
  split at h
  · exact absurd h (by simp)
  · next defs hdefs =>
    split at h
    · exact absurd h (by simp)
    · next bodies hlink =>
      obtain rfl := Except.ok.inj h
      exact ⟨defs, hdefs, hlink, rfl⟩

/-- **Built engines are linked.** -/
theorem linked_of_build (h : build s = .ok E) : E.Linked := by
  obtain ⟨defs, -, hlink, -⟩ := exists_of_build h
  exact (Linking.linkAll_spec hlink).1

theorem Built.linked (h : E.Built) : E.Linked := by
  obtain ⟨s, hs⟩ := h.exists_settings
  exact linked_of_build hs

/-- A compiled template carries the markers of its engine. -/
theorem delimiters_of_compile {text : Text} {t : Template} (h : E.compile text = .ok t) :
    t.delimiters = E.delimiters := by
  unfold compile at h
  split at h
  · exact absurd h (by simp)
  · obtain rfl := Except.ok.inj h
    rfl

/-- **The template of an expansion is its text compiled without expansions**, and a name
without a text is no expansion. -/
theorem expansion?_of_build (h : build s = .ok E) (name : Text) :
    (s.expansions.texts.get? name = none → E.expansion? name = none) ∧
      ∀ text, s.expansions.texts.get? name = some text →
        ∃ t, (bare s).compile text = .ok t ∧ E.expansion? name = some t := by
  obtain ⟨defs, hdefs, hlink, hE⟩ := exists_of_build h
  have hspec := (Linking.linkAll_spec hlink).2 name
  obtain ⟨hin, hout⟩ := compileAll_spec s.expansions.texts.ascending hdefs
  refine ⟨fun hnone => ?_, fun text htext => ?_⟩
  · have hnot : defs.get? name = none := hout name fun text hmem => by
      rw [← Dict.get?_eq_some_iff, hnone] at hmem
      exact absurd hmem (by simp)
    rw [hnot, Option.map_none, Option.map_eq_none_iff] at hspec
    simp [expansion?, hspec]
  · obtain ⟨t, ht, hget⟩ := hin name text (Dict.get?_eq_some_iff.mp htext)
    rw [hget, Option.map_some, Option.map_eq_some_iff] at hspec
    obtain ⟨b, hb, hbt⟩ := hspec
    obtain ⟨hc, htl⟩ := Prod.mk.inj hbt
    have hd : E.delimiters = t.delimiters := by
      rw [delimiters_of_compile ht, hE, bare]
    exact ⟨t, ht, by simp [expansion?, hb, Body.template, hc, htl, hd]⟩

/-! ## 6. What building does not read -/

section Unread

variable (filters : Registry) (skip : SkipList) (fallback : Option Text)

theorem compileSegments_with : ∀ (segs : Segments) (pending : Text),
    { E with filters, skip, fallback }.compileSegments pending segs = E.compileSegments pending segs
  | .tail _, _ => rfl
  | .unmatched _, _ => rfl
  | .token lead body rest, pending => by
    simp only [compileSegments, compileSegments_with rest]

/-- Compiling reads the markers, the aliases and the expansions. -/
theorem compile_with (text : Text) :
    { E with filters, skip, fallback }.compile text = E.compile text := by
  rw [compile, compile, compileSegments_with]

theorem compileAll_with : ∀ (texts : List (Text × Text)) (done : Dict Template),
    { E with filters, skip, fallback }.compileAll texts done = E.compileAll texts done
  | [], _ => rfl
  | (name, text) :: rest, done => by
    simp only [compileAll, compile_with, compileAll_with rest]

/-- **Building does not read the filters, the skip list and the default value.** -/
theorem build_with (h : build s = .ok E) :
    build { s with filters, skip, fallback } = .ok { E with filters, skip, fallback } := by
  obtain ⟨defs, hdefs, hlink, hE⟩ := exists_of_build h
  have hall : (bare { s with filters, skip, fallback }).compileAll s.expansions.toList .empty =
      .ok defs := (compileAll_with (E := bare s) filters skip fallback _ _).trans hdefs
  simp only [build, hall, hlink]
  rw [hE]
  rfl

end Unread

end Engine

/-! ## 7. A sample engine

Two expansions, one of which names the other with a filter that is ignored, an alias in a body,
and a macro that is echoed. -/

namespace Sample

def settings : Settings where
  delimiters := .standard
  filters := .builtin
  aliases := .ofList [("name".toList, ["NAME".toList])]
  skip := .ofList ["secret".toList]
  expansions := .ofList [("greeting".toList, "Hello, $\x7bNAME:upper\x7d".toList),
    ("letter".toList, "$\x7bgreeting:hex\x7d! $\x7bsecret\x7d".toList)]
  fallback := none

def greeting : Body := .token "Hello, ".toList ⟨"name:upper".toList⟩ (.done [])

def letter : Body :=
  .expand [] ⟨"greeting:hex".toList⟩ greeting (.token "! ".toList ⟨"secret".toList⟩ (.done []))

def engine : Engine :=
  { Engine.bare settings with
    bodies := .ofList [("greeting".toList, greeting), ("letter".toList, letter)] }

theorem build_settings : Engine.build settings = .ok engine := by
  have hgreeting : (Engine.bare settings).compile "Hello, $\x7bNAME:upper\x7d".toList
      = .ok (greeting.template .standard) := by decide +kernel
  have hletter : (Engine.bare settings).compile "$\x7bgreeting:hex\x7d! $\x7bsecret\x7d".toList
      = .ok (letter.template .standard) := by decide +kernel
  have hlist : settings.expansions.toList
      = [("greeting".toList, "Hello, $\x7bNAME:upper\x7d".toList),
        ("letter".toList, "$\x7bgreeting:hex\x7d! $\x7bsecret\x7d".toList)] := rfl
  simp only [Engine.build, hlist, Engine.compileAll, hgreeting, hletter]
  rfl

theorem built_engine : engine.Built := .settings build_settings

end Sample
end Stencil
