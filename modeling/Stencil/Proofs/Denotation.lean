/-
# What the parts of a template mean

The meaning of a template is given by an evaluator, `Meaning.template`.  This file says what the
evaluator comes to, part by part, in terms of the bindings and of the kinds of values rather than of
the functions that look these up and write them.

* `Value.Means`: what each kind of value comes to.  It leaves nothing open (`Value.exists_means`)
  and is what the evaluator makes of values (`Meaning.value_of_means`).
* `Bindings.First`, `Engine.LooksUp`: the first value bound to a macro, and the macros for which it
  is taken.
* `Meaning.Clauses`: what chunks, macros, bound templates and filters come to.
* `Engine.render_denotes`: a render call appends the meaning of its template, which the clauses
  give.
-/
import Stencil.Proofs.Independence

namespace Stencil

/-! ## 1. Values -/

/-- **What each kind of value comes to** that is bound to `name`, behind the bytes `before`.  A
template is no value of this kind, as it is rendered. -/
inductive Value.Means (name : Text) (before : Bytes) : Value → Outcome → Prop
  | none : Means name before .none (.error (.error (.unbound name)))
  | string (s : Text) : Means name before (.string s) (.ok s.utf8)
  | bytes (b : Bytes) : Means name before (.bytes b) (.ok b)
  | nan {x : Binary64} (h : x.view = .nan) :
      Means name before (.float x) (.ok (Text.utf8 "NaN".toList))
  | infinity {x : Binary64} (h : x.view = .infinite false) :
      Means name before (.float x) (.ok (Text.utf8 "+Inf".toList))
  | negativeInfinity {x : Binary64} (h : x.view = .infinite true) :
      Means name before (.float x) (.ok (Text.utf8 "-Inf".toList))
  | zero {x : Binary64} {q : Int} {atBoundary : Bool} (h : x.view = .finite false 0 q atBoundary) :
      Means name before (.float x) (.ok (Text.utf8 "0".toList))
  | negativeZero {x : Binary64} {q : Int} {atBoundary : Bool}
      (h : x.view = .finite true 0 q atBoundary) :
      Means name before (.float x) (.ok (Text.utf8 "-0".toList))
  /-- The shortest digits that read back, with a minus sign before them and a point among them where
  there is need. -/
  | finite {x : Binary64} {negative : Bool} {m : Nat} {q : Int} {atBoundary : Bool}
      (h : x.view = .finite negative m q atBoundary) (hm : m ≠ 0) :
      Means name before (.float x) (.ok (Text.utf8 ((if negative then ['-'] else []) ++
        FloatStyle.plain.layPositional (Shortest.ofBinary m q atBoundary))))
  | int (n : Int64) : Means name before (.int n) (.ok (Text.ofInt n.toInt).utf8)
  | uint (n : UInt64) : Means name before (.uint n) (.ok (Text.ofNat n.toNat).utf8)
  | true : Means name before (.bool true) (.ok (Text.utf8 "true".toList))
  | false : Means name before (.bool false) (.ok (Text.utf8 "false".toList))
  | concat (separator : Text) (items : List Text) :
      Means name before (.concat separator items) (.ok (Text.utf8 (separator.intercalate items)))
  | display (s : Text) : Means name before (.display (some s)) (.ok s.utf8)
  | unprintable : Means name before (.display .none) (.error .unprintable)
  | appended {write : Bytes → Emission} {b : Bytes} (h : write before = ⟨b, .none⟩) :
      Means name before (.appendable write) (.ok b)
  | torn {write : Bytes → Emission} {b : Bytes} {reason : Text}
      (h : write before = ⟨b, some reason⟩) :
      Means name before (.appendable write) (.error (.error (.value name reason)))
  | time {m : Moment} {pattern s : Text} (h : m.format? pattern = some s) :
      Means name before (.time m pattern) (.ok s.utf8)
  | untimely {m : Moment} {pattern : Text} (h : m.format? pattern = .none) :
      Means name before (.time m pattern) (.error .unprintable)
  | unix (m : Moment) : Means name before (.unix m) (.ok (Text.ofInt m.seconds).utf8)

/-- **Every kind of value comes to something**, but for templates. -/
theorem Value.exists_means (name : Text) (before : Bytes) (v : Value) :
    (∃ u, v = .template u) ∨ ∃ r, v.Means name before r := by
  cases v with
  | template u => exact .inl ⟨u, rfl⟩
  | none => exact .inr ⟨_, .none⟩
  | string s => exact .inr ⟨_, .string s⟩
  | bytes b => exact .inr ⟨_, .bytes b⟩
  | float x =>
    cases h : x.view with
    | nan => exact .inr ⟨_, .nan h⟩
    | infinite negative =>
      cases negative with
      | false => exact .inr ⟨_, .infinity h⟩
      | true => exact .inr ⟨_, .negativeInfinity h⟩
    | finite negative m q atBoundary =>
      by_cases hm : m = 0
      · subst hm
        cases negative with
        | false => exact .inr ⟨_, .zero h⟩
        | true => exact .inr ⟨_, .negativeZero h⟩
      · exact .inr ⟨_, .finite h hm⟩
  | int n => exact .inr ⟨_, .int n⟩
  | uint n => exact .inr ⟨_, .uint n⟩
  | bool b =>
    cases b with
    | true => exact .inr ⟨_, .true⟩
    | false => exact .inr ⟨_, .false⟩
  | concat separator items => exact .inr ⟨_, .concat separator items⟩
  | display shown =>
    cases shown with
    | none => exact .inr ⟨_, .unprintable⟩
    | some s => exact .inr ⟨_, .display s⟩
  | appendable write =>
    cases h : write before with
    | mk b failure =>
      cases failure with
      | none => exact .inr ⟨_, .appended h⟩
      | some reason => exact .inr ⟨_, .torn h⟩
  | time m pattern =>
    cases h : m.format? pattern with
    | none => exact .inr ⟨_, .untimely h⟩
    | some s => exact .inr ⟨_, .time h⟩
  | unix m => exact .inr ⟨_, .unix m⟩

/-- The evaluator makes of a value what its kind comes to. -/
theorem Meaning.value_of_means {name : Text} {before : Bytes} {v : Value} {r : Outcome}
    (h : v.Means name before r) : value name v before = r := by
  cases h with
  | nan h => simp [value, Value.serialise, FloatStyle.write, h, FloatStyle.plain]
  | infinity h => simp [value, Value.serialise, FloatStyle.write, h, FloatStyle.plain]
  | negativeInfinity h => simp [value, Value.serialise, FloatStyle.write, h, FloatStyle.plain]
  | zero h =>
    simp only [value, Value.serialise, FloatStyle.write, h]
    rfl
  | negativeZero h =>
    simp only [value, Value.serialise, FloatStyle.write, h]
    rfl
  | finite h hm => simp [value, Value.serialise, FloatStyle.write, h, hm, FloatStyle.plain]
  | concat separator items =>
    simp only [value, Value.serialise, Text.join_eq_intercalate]
  | appended h => simp only [value, Value.serialise, h]
  | torn h => simp only [value, Value.serialise, h]
  | time h => simp only [value, Value.serialise, Value.printed, h]
  | untimely h => simp only [value, Value.serialise, Value.printed, h]
  | _ => rfl

/-! ## 2. First bindings -/

/-- `v` is the first value bound to `name`. -/
def Bindings.First (vs : Bindings) (name : Text) (v : Value) : Prop :=
  ∃ xs ys, vs = xs ++ (name, v) :: ys ∧ ∀ b ∈ xs, b.1 ≠ name

/-- A macro that is neither an expansion nor on the skip list. -/
def Engine.LooksUp (E : Engine) (name : Text) : Prop :=
  E.expansion? name = none ∧ E.skip.contains name = false

section Lookup

variable {name : Text} {v : Value}

theorem lookup?_eq_none : ∀ {vs : Bindings}, (∀ b ∈ vs, b.1 ≠ name) → lookup? name vs = none
  | [], _ => rfl
  | (n, v) :: vs, h => by
    rw [lookup?, if_neg (h _ List.mem_cons_self)]
    exact lookup?_eq_none fun b hb => h b (List.mem_cons_of_mem _ hb)

theorem Bindings.First.lookup?_eq {vs : Bindings} (h : vs.First name v) :
    lookup? name vs = some v := by
  obtain ⟨xs, ys, rfl, hxs⟩ := h
  rw [lookup?_append, lookup?_eq_none hxs, Option.none_or, lookup?, if_pos rfl]

end Lookup

/-! ## 3. Chunks, macros and filters -/

namespace Meaning

/-- **What the parts of a template mean**, clause by clause. -/
structure Clauses (E : Engine) (vs : Bindings) : Prop where
  /-- A template that is rendered has `32` levels left for the templates bound in it, -/
  rendered : ∀ t, template E vs t = chunks E vs (bound E vs 32) t.tail t.chunks
  /-- and a bound template, which is rendered with the same bindings, one less than the template in
  which it is bound. -/
  deeper : ∀ left name u,
    bound E vs (left + 1) name u = chunks E vs (bound E vs left) u.tail u.chunks
  /-- With no level left a bound template is not rendered. -/
  tooDeep : ∀ name u before, bound E vs 0 name u before = .error (.error (.depth name 32))
  /-- Behind the chunks stands the tail. -/
  tail : ∀ nested tail before, chunks E vs nested tail [] before = .ok tail.utf8
  /-- A chunk is its literal text and what its token means, and then come the other chunks. -/
  chunk : ∀ nested tail c cs before b,
    token E vs nested c.token.name c.token.suffix (before ++ c.lead.utf8) = .ok b →
      chunks E vs nested tail (c :: cs) before =
        (chunks E vs nested tail cs (before ++ c.lead.utf8 ++ b)).map (c.lead.utf8 ++ b ++ ·)
  /-- The first token that fails decides. -/
  failed : ∀ nested tail c cs before e,
    token E vs nested c.token.name c.token.suffix (before ++ c.lead.utf8) = .error e →
      chunks E vs nested tail (c :: cs) before = .error e
  /-- An expansion means the template that was written for it, its own filters dropped. -/
  expansion : ∀ nested name suffix d, E.expansion? name = some d →
    token E vs nested name suffix = chunks E vs nested d.tail d.chunks
  /-- A macro on the skip list is echoed between the markers, with its filters in canonical form. -/
  echoed : ∀ nested name suffix before, E.expansion? name = none → E.skip.contains name = true →
    token E vs nested name suffix before =
      .ok (Text.utf8 (E.delimiters.start ++ name ++
        (Token.filterNames suffix).flatMap (':' :: ·) ++ E.delimiters.stop))
  /-- Every value but a template comes to something. -/
  kind : ∀ name before (v : Value), (∃ u, v = .template u) ∨ ∃ r, v.Means name before r
  /-- A macro that is looked up means its first value, with the filters applied to it. -/
  value : ∀ nested name suffix before v r, E.LooksUp name → vs.First name v →
    v.Means name before r → token E vs nested name suffix before =
      r >>= filters E.filters (Token.filterNames suffix)
  /-- A template that is its first value is rendered, and the filters are applied to its output. -/
  template : ∀ nested name suffix before u, E.LooksUp name → vs.First name (.template u) →
    token E vs nested name suffix before =
      nested name u before >>= filters E.filters (Token.filterNames suffix)
  /-- No value is not found, whether or not there is a default value. -/
  none : ∀ nested name suffix before, E.LooksUp name → vs.First name .none →
    token E vs nested name suffix before = .error (.error (.unbound name))
  /-- A macro that nothing is bound to means the default value, with the filters applied to it, -/
  fallback : ∀ nested name suffix before s, E.LooksUp name → (∀ b ∈ vs, b.1 ≠ name) →
    E.fallback = some s → token E vs nested name suffix before =
      filters E.filters (Token.filterNames suffix) s.utf8
  /-- and is not found when there is none. -/
  unbound : ∀ nested name suffix before, E.LooksUp name → (∀ b ∈ vs, b.1 ≠ name) →
    E.fallback = .none → token E vs nested name suffix before = .error (.error (.unbound name))
  /-- Without filters a value stays as it is. -/
  unfiltered : ∀ b, filters E.filters [] b = .ok b
  /-- Of a chain of filters the first is applied, and the others to what it gives, -/
  filtered : ∀ f fs g b, E.filters.get? f = some g → (g b).failure = .none →
    filters E.filters (f :: fs) b = filters E.filters fs (g b).written
  /-- unless it refuses the value -/
  refused : ∀ f fs g b reason, E.filters.get? f = some g → (g b).failure = some reason →
    filters E.filters (f :: fs) b = .error (.error (.filter f reason))
  /-- or is not registered. -/
  unregistered : ∀ f fs b, E.filters.get? f = .none →
    filters E.filters (f :: fs) b =
      .error (.error (.noFilter f (suggestions f E.filters.keys)))

variable {E : Engine} {vs : Bindings} {nested : Text → Template → Writing}
  {name suffix : Text} {before : Bytes}

/-- A macro that is looked up means its binding, with the filters applied to it. -/
theorem token_of_looksUp (h : E.LooksUp name) : token E vs nested name suffix before =
    binding E vs nested name before >>= filters E.filters (Token.filterNames suffix) := by
  rw [token_of_not_expansion h.1, leaf_of_not_skipped h.2]

theorem binding_of_first {v : Value} {r : Outcome} (hv : vs.First name v)
    (hr : v.Means name before r) : binding E vs nested name before = r := by
  rw [binding, hv.lookup?_eq]
  cases v with
  | template u => cases hr
  | _ => exact value_of_means hr

/-- **The clauses hold** in an engine whose bodies are linked. -/
theorem clauses (hE : E.Linked) (vs : Bindings) : Clauses E vs where
  rendered _ := rfl
  deeper _ _ _ := rfl
  tooDeep _ _ _ := rfl
  tail _ _ _ := rfl
  chunk nested tail c cs before b h := by
    rw [chunks, text_seq, seq_of_ok h]
    cases chunks E vs nested tail cs (before ++ c.lead.utf8 ++ b) with
    | ok b' => simp [Except.map]
    | error e => rfl
  failed nested tail c cs before e h := by
    rw [chunks, text_seq, seq_of_error h]
    rfl
  expansion nested name suffix d h := token_of_expansion hE h suffix
  echoed nested name suffix before h hskip := by
    rw [token_of_not_expansion h, leaf_of_skipped hskip, text, Delimiters.echo,
      Delimiters.placeholder, Token.chain, Token.filter_filterNames, List.append_assoc _ name]
  kind := Value.exists_means
  value nested name suffix before v r h hv hr := by
    rw [token_of_looksUp h, binding_of_first hv hr]
  template nested name suffix before u h hu := by
    rw [token_of_looksUp h, binding, hu.lookup?_eq]
  none nested name suffix before h hv := by
    rw [token_of_looksUp h, binding_of_first hv .none]
    rfl
  fallback nested name suffix before s h hvs hs := by
    rw [token_of_looksUp h, binding, lookup?_eq_none hvs, hs]
    rfl
  unbound nested name suffix before h hvs hs := by
    rw [token_of_looksUp h, binding, lookup?_eq_none hvs, hs]
    rfl
  unfiltered _ := rfl
  filtered f fs g b hg hb := by simp only [filters, hg, hb]
  refused f fs g b reason hg hb := by simp only [filters, hg, hb]
  unregistered f fs b hf := by simp only [filters, hf]

end Meaning

/-! ## 4. Calls -/

/-- **Rendering is denotational.**  A render call appends the meaning of its template or returns the
failure of that meaning.  In the meaning an expansion stands for the template that was written for
it, with its filters dropped, and any other macro for a leaf; the clauses say what these come to.
When the custom values among the bindings write the same behind all bytes, the meaning is the same
behind all bytes, too. -/
theorem Engine.render_denotes {E : Engine} (hE : E.Built) (out : Bytes) (t : Template)
    (vs : Bindings) :
    E.render out t vs = Meaning.onto out (Meaning.template E vs t out) ∧
      Meaning.Clauses E vs ∧
      (vs.Independent → ∀ before,
        E.render out t vs = Meaning.onto out (Meaning.template E vs t before)) ∧
      ∀ nested name suffix, Meaning.token E vs nested name suffix =
        match E.expansion? name with
        | some d => Meaning.chunks E vs nested d.tail d.chunks
        | none => Meaning.leaf E vs nested name suffix := by
  refine ⟨E.render_eq out vs t, Meaning.clauses hE.linked vs,
    fun hvs before => render_of_independent hvs out before t, fun nested name suffix => ?_⟩
  cases h : E.expansion? name with
  | some d => exact Meaning.token_of_expansion hE.linked h suffix
  | none => exact Meaning.token_of_not_expansion h suffix

namespace Sample

/-- The sample engine with a default value. -/
def hopeful : Engine := { engine with fallback := some "nobody".toList }

theorem built_hopeful : hopeful.Built :=
  .settings (Engine.build_with settings.filters settings.skip (some "nobody".toList) build_settings)

/-- A template with an expansion, an echoed macro, a bound template and a macro that nothing is
bound to, all of them with filters. -/
def invitation : Template :=
  ⟨[⟨"To: ".toList, ⟨"letter:upper".toList⟩⟩, ⟨" ".toList, ⟨"secret::hex:".toList⟩⟩,
    ⟨" ".toList, ⟨"about:upper".toList⟩⟩, ⟨" ".toList, ⟨"guest:hex".toList⟩⟩],
    ".".toList, .standard⟩

/-- Its bindings, with others behind them that are not read. -/
def guests : Bindings :=
  [("name".toList, .string "Ann".toList), ("about".toList, .template about),
    ("name".toList, .none), ("about".toList, .string "unread".toList)]

/-- A template that names one macro and nothing else. -/
def nameOnly : Template := ⟨[⟨[], ⟨"name".toList⟩⟩], [], .standard⟩

/-- No value, in front of one. -/
def vacant : Bindings := [("name".toList, .none), ("name".toList, .string "Ann".toList)]

/-- A template that is bound inside itself. -/
def selfNaming : Bindings := [("name".toList, .template nameOnly)]

/-- Values of all kinds that are not templates. -/
def kinds : Bindings :=
  [("string".toList, .string "é".toList), ("bytes".toList, .bytes [0x62]),
    ("nan".toList, .float ⟨0x7ff8000000000000⟩), ("infinity".toList, .float ⟨0xfff0000000000000⟩),
    ("zero".toList, .float ⟨0x8000000000000000⟩), ("tenth".toList, .float ⟨0x3fb999999999999a⟩),
    ("int".toList, .int (-7)), ("uint".toList, .uint 42), ("bool".toList, .bool true),
    ("concat".toList, .concat "+".toList ["a".toList, "b".toList]),
    ("display".toList, .display (some "shown".toList)), ("custom".toList, .custom (.ok [0x21])),
    ("time".toList, .time ⟨1709967900, 0, 3600⟩ "%Y-%m-%d %H:%M".toList),
    ("unix".toList, .unix ⟨1709967900, 0, 3600⟩)]

/-- A template that names the macros of all these values in turn. -/
def inventory : Template :=
  ⟨kinds.map fun b => ⟨" ".toList, ⟨b.1⟩⟩, [], .standard⟩

theorem render_denotes_invitation :
    hopeful.render [0x2D] invitation guests =
        (.ok (), Text.utf8 ("-To: Hello, ANN! $\x7bsecret\x7d $\x7bsecret:hex\x7d ".toList ++
          "<ANN|$\x7bSECRET\x7d> 6e6f626f6479.".toList)) ∧
      hopeful.render [] inventory kinds =
        (.ok (), Text.utf8 (" é b NaN -Inf -0 0.1 -7 42 true".toList ++
          " a+b shown ! 2024-03-09 08:05 1709967900".toList)) ∧
      (∀ out, hopeful.render out nameOnly vacant =
        (.error (.error (.unbound "name".toList)), out)) ∧
      (∀ out, hopeful.render out nameOnly [] = (.ok (), out ++ Text.utf8 "nobody".toList)) ∧
      hopeful.render [0x2D] nameOnly selfNaming =
        (.error (.error (.depth "name".toList 32)), [0x2D]) := by
  have hlooked : hopeful.LooksUp "name".toList := by
    constructor <;> decide +kernel
  refine ⟨?_, ?_, fun out => ?_, fun out => ?_, ?_⟩
  · rw [(Engine.render_denotes built_hopeful [0x2D] invitation guests).1]
    decide +kernel
  · rw [(Engine.render_denotes built_hopeful [] inventory kinds).1]
    decide +kernel
  · obtain ⟨hrender, hclauses, -⟩ := Engine.render_denotes built_hopeful out nameOnly vacant
    have hfirst : Bindings.First vacant "name".toList .none := ⟨[], _, rfl, fun _ hb => nomatch hb⟩
    have htoken := hclauses.none (Meaning.bound hopeful vacant 32) "name".toList [] (out ++ [])
      hlooked hfirst
    rw [hrender, hclauses.rendered, nameOnly,
      hclauses.failed _ _ ⟨[], ⟨"name".toList⟩⟩ _ _ _ htoken]
    rfl
  · obtain ⟨hrender, hclauses, -⟩ := Engine.render_denotes built_hopeful out nameOnly []
    rw [hrender, hclauses.rendered, nameOnly, hclauses.chunk _ _ _ _ _ _
      (hclauses.fallback _ _ _ _ _ hlooked (fun _ hb => nomatch hb) rfl), hclauses.tail]
    rfl
  · rw [(Engine.render_denotes built_hopeful [0x2D] nameOnly selfNaming).1]
    decide +kernel

end Sample
end Stencil
