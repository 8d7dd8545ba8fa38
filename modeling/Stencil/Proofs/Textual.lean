/-
# When the output is text

Bytes and custom values can write anything, so that the output of a call need not be UTF-8.  The
output can be read as text when each of these values goes through a filter that writes ASCII.

* `Utf8.WellFormed`: the form of a text.  It is kept by `++` and by changing ASCII bytes to ASCII
  bytes (`Utf8.WellFormed.append`, `Utf8.WellFormed.map`).
* `Filter.written_wellFormed`: the built-in encoders write well-formed bytes, and the other built-in
  filters keep them well-formed.
* `Engine.Encodes`: every token that meets a raw value names an encoder.
* `Engine.text_of_encodes`: then a call can be read as text, and its text has the bytes that are
  appended.
-/
import Stencil.Proofs.Decoding
import Stencil.Proofs.Encodings
import Stencil.Proofs.Independence

namespace Stencil

/-! ## 1. Well-formed bytes -/

namespace Utf8

/-- The form of a text. -/
def WellFormed (b : Bytes) : Prop := ∃ s : Text, b = s.utf8

variable {a b : Bytes}

theorem wellFormed_utf8 (s : Text) : WellFormed s.utf8 := ⟨s, rfl⟩

theorem WellFormed.append (ha : WellFormed a) (hb : WellFormed b) : WellFormed (a ++ b) := by
  obtain ⟨s, rfl⟩ := ha
  obtain ⟨u, rfl⟩ := hb
  exact ⟨s ++ u, (Text.utf8_append s u).symm⟩

/-- ASCII is well-formed. -/
theorem wellFormed_of_ascii : ∀ {b : Bytes}, (∀ x ∈ b, x < 0x80) → WellFormed b
  | [], _ => ⟨[], rfl⟩
  | x :: b, h => by
    have hx : x.toNat < 0x80 := UInt8.lt_iff_toNat_lt.mp (h x List.mem_cons_self)
    obtain ⟨c, -, hc⟩ := exists_char_of_spells (.whole hx)
    have hfirst : WellFormed [x] := ⟨[c], by rw [Text.utf8, List.flatMap_singleton, hc]⟩
    exact hfirst.append (wellFormed_of_ascii fun y hy => h y (List.mem_cons_of_mem _ hy))

/-- A character is one byte of ASCII, or none of its bytes is in ASCII. -/
theorem utf8EncodeChar_ascii_or (c : Char) : (∃ x < 0x80, String.utf8EncodeChar c = [x]) ∨
    ∀ x ∈ String.utf8EncodeChar c, ¬ x < 0x80 := by
  simp only [String.utf8EncodeChar]
  split_ifs with h
  · refine .inl ⟨_, ?_, rfl⟩
    rw [UInt8.lt_iff_toNat_lt, UInt8.toNat_ofNat']
    exact Nat.lt_of_le_of_lt (Nat.mod_le _ _) (Nat.lt_succ_of_le h)
  all_goals
    refine .inr ?_
    simp only [List.forall_mem_cons, UInt8.lt_iff_toNat_lt, UInt8.toNat_ofNat', UInt8.reduceToNat,
      List.not_mem_nil, false_imp_iff, implies_true, and_true]
    omega

/-- Changing ASCII bytes to ASCII bytes, and no others, keeps bytes well-formed. -/
theorem WellFormed.map {f : UInt8 → UInt8} (hlow : ∀ x < 0x80, f x < 0x80)
    (hhigh : ∀ x, ¬ x < 0x80 → f x = x) (hb : WellFormed b) : WellFormed (b.map f) := by
  obtain ⟨s, rfl⟩ := hb
  induction s with
  | nil => exact ⟨[], rfl⟩
  | cons c s ih =>
    rw [Text.utf8, List.flatMap_cons, List.map_append]
    refine WellFormed.append ?_ ih
    rcases utf8EncodeChar_ascii_or c with ⟨x, hx, hc⟩ | hc
    · rw [hc]
      exact wellFormed_of_ascii fun y hy => List.mem_singleton.mp hy ▸ hlow x hx
    · rw [List.map_congr_left fun x hx => hhigh x (hc x hx), List.map_id']
      exact ⟨[c], by rw [Text.utf8, List.flatMap_singleton]⟩

end Utf8

/-! ## 2. Filters and values -/

namespace Filter

/-- The filters that write ASCII, whatever they are given. -/
def encoders : List Text :=
  ["hex".toList, "base64".toList, "base64url".toList, "urlquery".toList]

theorem upperByte_lt {x : UInt8} (h : x < 0x80) : upperByte x < 0x80 := by
  grind [upperByte]

theorem upperByte_of_not_lt {x : UInt8} (h : ¬ x < 0x80) : upperByte x = x := by
  grind [upperByte]

theorem lowerByte_lt {x : UInt8} (h : x < 0x80) : lowerByte x < 0x80 := by
  grind [lowerByte]

theorem lowerByte_of_not_lt {x : UInt8} (h : ¬ x < 0x80) : lowerByte x = x := by
  grind [lowerByte]

/-- **What built-in filters write.**  The encoders write well-formed bytes, and the others keep
bytes well-formed. -/
theorem written_wellFormed {name : Text} {f : Filter} (hf : (name, f) ∈ builtin) {b : Bytes}
    (h : name ∈ encoders ∨ Utf8.WellFormed b) : Utf8.WellFormed (f b).written := by
  simp only [builtin, List.mem_cons, List.not_mem_nil, or_false, Prod.mk.injEq] at hf
  rcases hf with ⟨-, rfl⟩ | ⟨-, rfl⟩ | ⟨-, rfl⟩ | ⟨-, rfl⟩ | ⟨rfl, rfl⟩ | ⟨rfl, rfl⟩
  · exact Utf8.wellFormed_of_ascii fun _ hx => Hex.lt_of_mem_encode hx
  · exact Utf8.wellFormed_of_ascii fun _ hx => Base64.lt_of_mem_encode Base64.ascii_standard hx
  · exact Utf8.wellFormed_of_ascii fun _ hx => Base64.lt_of_mem_encode Base64.ascii_urlSafe hx
  · exact Utf8.wellFormed_of_ascii fun _ hx => (Form.written_of_mem_encode hx).lt
  · have hb : Utf8.WellFormed b := h.resolve_left (by decide)
    exact hb.map (fun _ => upperByte_lt) fun _ => upperByte_of_not_lt
  · have hb : Utf8.WellFormed b := h.resolve_left (by decide)
    exact hb.map (fun _ => lowerByte_lt) fun _ => lowerByte_of_not_lt

end Filter

/-- A registry that holds built-in filters only, each under its own name. -/
def Registry.OnlyBuiltin (r : Registry) : Prop :=
  ∀ name f, r.get? name = some f → (name, f) ∈ Filter.builtin

theorem Registry.onlyBuiltin_builtin : Registry.builtin.OnlyBuiltin :=
  fun _ _ => Dict.mem_of_get?_ofList

namespace Value

/-- A value that writes bytes of its own choice. -/
def IsRaw : Value → Prop
  | .bytes _ => True
  | .appendable _ => True
  | _ => False

theorem wellFormed_of_printed {b : Bytes} : ∀ {shown : Option Text},
    printed shown = .ok b → Utf8.WellFormed b
  | some s, h => Serialised.ok.inj h ▸ Utf8.wellFormed_utf8 s

/-- All other values write text. -/
theorem wellFormed_of_serialise {v : Value} (hv : ¬ v.IsRaw) {before b : Bytes}
    (h : v.serialise before = .ok b) : Utf8.WellFormed b := by
  cases v with
  | none => nomatch h
  | bytes b => exact absurd trivial hv
  | appendable write => exact absurd trivial hv
  | display shown => exact wellFormed_of_printed h
  | time m pattern => exact wellFormed_of_printed h
  | bool x => cases x <;> exact Serialised.ok.inj h ▸ Utf8.wellFormed_utf8 _
  | _ => exact Serialised.ok.inj h ▸ Utf8.wellFormed_utf8 _

end Value

/-! ## 3. Outcomes that are text -/

/-- **Every raw value that is met goes through an encoder**: each token of a raw value names an
encoder among its filters, unless it is only echoed. -/
def Engine.Encodes (E : Engine) (vs : Bindings) (ps : List Piece) : Prop :=
  ∀ k, E.Meets vs ps k → E.skip.contains k.name = false →
    ∀ v, lookup? k.name vs = some v → v.IsRaw → ∃ f ∈ k.filters, f ∈ Filter.encoders

namespace Meaning

/-- An outcome whose bytes, if there are any, are well-formed. -/
def Textual (r : Outcome) : Prop := ∀ b, r = .ok b → Utf8.WellFormed b

theorem textual_ok {b : Bytes} (h : Utf8.WellFormed b) : Textual (.ok b) :=
  fun _ hb => Except.ok.inj hb ▸ h

theorem textual_error (e : Failure) : Textual (.error e) := fun _ h => nomatch h

theorem kept_textual : Kept (Always Textual) := by
  refine kept_always (fun _ => textual_ok (Utf8.wellFormed_utf8 _)) (fun _ => textual_error _)
    (fun _ => textual_error _) fun {a r} ha hr => ?_
  cases r with
  | error e => exact textual_error e
  | ok b => exact textual_ok ((ha a rfl).append (hr b rfl))

/-- **A chain of built-in filters ends in text** when an encoder is among them, and when it starts
with text. -/
theorem filters_textual {reg : Registry} (hreg : reg.OnlyBuiltin) : ∀ {names : List Text}
    {b : Bytes}, (∃ n ∈ names, n ∈ Filter.encoders) ∨ Utf8.WellFormed b →
      Textual (filters reg names b)
  | [], b, h => textual_ok (h.resolve_left fun ⟨_, hn, _⟩ => nomatch hn)
  | name :: names, b, h => by
    rw [filters]
    split
    · exact textual_error _
    · next f hf =>
      split
      · exact textual_error _
      · refine filters_textual hreg ?_
        have hwritten := Filter.written_wellFormed (hreg _ _ hf) (b := b)
        rcases h with ⟨n, hn, hencodes⟩ | hb
        · rcases List.mem_cons.mp hn with rfl | hn
          · exact .inr (hwritten (.inl hencodes))
          · exact .inl ⟨n, hn, hencodes⟩
        · exact .inr (hwritten (.inr hb))

theorem value_textual {v : Value} (hv : ¬ v.IsRaw) (name : Text) :
    Always Textual (value name v) := by
  intro before
  rw [value]
  split
  · next b hb => exact textual_ok (Value.wellFormed_of_serialise hv hb)
  all_goals exact textual_error _

variable {E : Engine} {vs : Bindings}

/-- A leaf is text when its token names an encoder, should it meet a raw value. -/
theorem leafKeeps_textual (hreg : E.filters.OnlyBuiltin) {k : Token}
    (h : E.skip.contains k.name = false →
      ∀ v, lookup? k.name vs = some v → v.IsRaw → ∃ f ∈ k.filters, f ∈ Filter.encoders) :
    LeafKeeps (Always Textual) E vs k := by
  intro nested hnested before
  cases hskip : E.skip.contains k.name with
  | true =>
    rw [leaf_of_skipped hskip]
    exact kept_textual.text _ before
  | false =>
    have hbinding (hraw : ∀ v, lookup? k.name vs = some v → ¬ v.IsRaw) :
        Textual (binding E vs nested k.name before) :=
      binding_of_kept kept_textual (fun _ => textual_error _)
        (fun v hv => value_textual (hraw v hv) k.name) (fun u hu => hnested u hskip hu) before
    rw [leaf_of_not_skipped hskip]
    cases hb : binding E vs nested k.name before with
    | error e => exact textual_error e
    | ok b =>
      refine filters_textual hreg ?_
      by_cases hraw : ∃ v, lookup? k.name vs = some v ∧ v.IsRaw
      · obtain ⟨v, hv, hvraw⟩ := hraw
        exact .inl (h hskip v hv hvraw)
      · exact .inr (hbinding (fun v hv hvraw => hraw ⟨v, hv, hvraw⟩) b hb)

/-- Reading as text what an outcome leaves of no bytes, and appending its form, is what the outcome
does itself. -/
theorem decoded_of_textual {r : Outcome} (htextual : Textual r) (hfails : FailsInRendering r) :
    Engine.decoded (onto [] r) ≠ .error (.error .notUtf8) ∧
      ∀ out, onto out r = onto out ((Engine.decoded (onto [] r)).map Text.utf8) := by
  cases r with
  | error e =>
    refine ⟨fun h => ?_, fun out => rfl⟩
    obtain rfl : e = .error .notUtf8 := Except.error.inj h
    exact hfails _ rfl
  | ok b =>
    obtain ⟨s, rfl⟩ := htextual b rfl
    have hdecoded : Engine.decoded (onto [] (.ok s.utf8)) = .ok s := by
      rw [onto, List.nil_append, Engine.decoded, Utf8.decode?_eq_some_iff.mpr rfl]
    rw [hdecoded]
    exact ⟨fun h => by contradiction, fun out => rfl⟩

end Meaning

/-! ## 4. Whole calls -/

/-- **Encoded output is text.**  In an engine with no other filters than the built-in ones, a call
for which every raw value that is met goes through an encoder never fails for the reason that its
output is not UTF-8.  Where it gives a text, the bytes of this text are the ones that it appends, and
where it fails, it fails alike when it appends: to no bytes, and to any bytes when the custom values
among the bindings do not look at these. -/
theorem Engine.text_of_encodes {E : Engine} (hreg : E.filters.OnlyBuiltin) (vs : Bindings) :
    (∀ t, E.Encodes vs (E.pieces t) →
      E.renderText t vs ≠ .error (.error .notUtf8) ∧
        ∀ out, out = [] ∨ vs.Independent →
          E.render out t vs = Meaning.onto out ((E.renderText t vs).map Text.utf8)) ∧
      ∀ s, E.Encodes vs (E.textPieces s) →
        E.replaceText s vs ≠ .error (.error .notUtf8) ∧
          ∀ out, out = [] ∨ vs.Independent →
            E.replace out s vs = Meaning.onto out ((E.replaceText s vs).map Text.utf8) := by
  constructor
  · intro t h
    have htextual := Meaning.template_of_met Meaning.kept_textual fun k hk =>
      Meaning.leafKeeps_textual hreg (h k hk)
    obtain ⟨hutf8, hbytes⟩ := Meaning.decoded_of_textual (htextual [])
      (Meaning.template_failsInRendering E vs t [])
    rw [renderText, render_eq]
    refine ⟨hutf8, ?_⟩
    rintro out (rfl | hvs)
    · rw [render_eq, ← hbytes]
    · rw [render_of_independent hvs out [], ← hbytes]
  · intro s h
    have htextual := Meaning.inline_of_met Meaning.kept_textual fun k hk =>
      Meaning.leafKeeps_textual hreg (h k hk)
    obtain ⟨hutf8, hbytes⟩ := Meaning.decoded_of_textual (htextual [])
      (Meaning.inline_failsInRendering E vs s [])
    rw [replaceText, replace_eq]
    refine ⟨hutf8, ?_⟩
    rintro out (rfl | hvs)
    · rw [replace_eq, ← hbytes]
    · rw [replace_of_independent hvs out [], ← hbytes]

namespace Sample

/-- A template to be bound, with an expansion and with a raw value behind two encoders. -/
def envelope : Template :=
  ⟨[⟨[], ⟨"letter".toList⟩⟩, ⟨"&".toList, ⟨"seal:base64:urlquery".toList⟩⟩], [], .standard⟩

/-- A template whose first token meets a raw value, and whose second one the template above. -/
def parcel : Template :=
  ⟨[⟨"é".toList, ⟨"key:upper:hex".toList⟩⟩, ⟨" ".toList, ⟨"envelope:lower".toList⟩⟩], [], .standard⟩

/-- Three raw values; the macro of the last one is only echoed. -/
def rawBindings : Bindings :=
  [("key".toList, .bytes [0xff, 0x61]), ("seal".toList, .custom (.ok [0xc3])),
    ("secret".toList, .bytes [0x80]), ("envelope".toList, .template envelope),
    ("name".toList, .string "Änn".toList)]

/-- The text `é${key:hex}`. -/
def keyText : Text := "é$\x7bkey:hex\x7d".toList

/-- The tokens of both templates and of the text, with the expansion in place. -/
def sealedTokens : List Token :=
  [⟨"key:upper:hex".toList⟩, ⟨"envelope:lower".toList⟩, ⟨"name:upper".toList⟩, ⟨"secret".toList⟩,
    ⟨"seal:base64:urlquery".toList⟩, ⟨"key:hex".toList⟩]

theorem encodes_of_sealedTokens {ps : List Piece} (h : ∀ k ∈ Piece.tokens ps, k ∈ sealedTokens) :
    engine.Encodes rawBindings ps := by
  intro k hk hskip v hv hraw
  have henvelope : ∀ k ∈ Piece.tokens (engine.pieces envelope), k ∈ sealedTokens := by
    decide +kernel
  have hmem : k ∈ sealedTokens := by
    rcases hk.mem_tokens with hk | ⟨m, u, hu, hk⟩
    · exact h k hk
    · obtain ⟨-, rfl⟩ : m = "envelope".toList ∧ u = envelope := by
        simpa [rawBindings, Value.custom] using hu
      exact henvelope k hk
  have hbound : lookup? "envelope".toList rawBindings = some (.template envelope) := rfl
  have hname : lookup? "name".toList rawBindings = some (.string "Änn".toList) := rfl
  simp only [sealedTokens, List.mem_cons, List.not_mem_nil, or_false] at hmem
  rcases hmem with rfl | rfl | rfl | rfl | rfl | rfl
  · exact ⟨"hex".toList, by decide +kernel, by decide⟩
  · obtain rfl := Option.some.inj (hbound.symm.trans hv)
    exact hraw.elim
  · obtain rfl := Option.some.inj (hname.symm.trans hv)
    exact hraw.elim
  · exact absurd hskip (by decide +kernel)
  · exact ⟨"base64".toList, by decide +kernel, by decide⟩
  · exact ⟨"hex".toList, by decide +kernel, by decide⟩

theorem text_of_encodes_parcel : engine.filters.OnlyBuiltin ∧
    engine.Encodes rawBindings (engine.pieces parcel) ∧
      engine.Encodes rawBindings (engine.textPieces keyText) ∧
      engine.renderText parcel rawBindings
        = .ok "éff41 hello, Änn! $\x7bsecret\x7d&ww%3d%3d".toList ∧
      engine.render [0xfe] parcel rawBindings
        = (.ok (), 0xfe :: Text.utf8 "éff41 hello, Änn! $\x7bsecret\x7d&ww%3d%3d".toList) ∧
      engine.replaceText keyText rawBindings ≠ .error (.error .notUtf8) := by
  have hparcel : engine.Encodes rawBindings (engine.pieces parcel) :=
    encodes_of_sealedTokens (by decide +kernel)
  have hkeyText : engine.Encodes rawBindings (engine.textPieces keyText) :=
    encodes_of_sealedTokens (by decide +kernel)
  obtain ⟨htemplate, htext⟩ :=
    Engine.text_of_encodes (E := engine) Registry.onlyBuiltin_builtin rawBindings
  have hrendered : engine.renderText parcel rawBindings
      = .ok "éff41 hello, Änn! $\x7bsecret\x7d&ww%3d%3d".toList := by
    rw [Engine.renderText, Engine.render_eq]
    decide +kernel
  have hindependent : Bindings.Independent rawBindings := by
    simp [Bindings.Independent, rawBindings, Value.Independent, Value.custom]
  refine ⟨Registry.onlyBuiltin_builtin, hparcel, hkeyText, hrendered, ?_, (htext _ hkeyText).1⟩
  rw [(htemplate _ hparcel).2 _ (.inr hindependent), hrendered]
  rfl

end Sample
end Stencil
